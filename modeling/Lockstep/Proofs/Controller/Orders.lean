import Lockstep.Controller
import Lockstep.Simulator.Plant

/-! What passes between a plant and a standing controller.

A plant reads the joint commands of a message and nothing else of it, and a
controller the measured joints. So two of them that go by different messages do
the same, as long as commands and measurements are the same.
-/

set_option autoImplicit false

namespace Lockstep

open Message Simulator

namespace Message.ToSimulator

/-- The joint commands, which are all that a plant reads. -/
def orders (output : ToSimulator) : SpiCommand × PerLeg BoardCommand := (output.spi, output.boards)

variable {output output' : ToSimulator}

theorem orders_command (same : output.orders = output'.orders) (robot : Robot) (leg : Leg)
    (joints : PerJoint JointTarget) (limit : Single) :
    (output.command robot leg joints limit).orders =
      (output'.command robot leg joints limit).orders := by
  obtain ⟨spi, boards⟩ := Prod.mk.inj same
  unfold command
  split
  · simp only [orders, spi, boards]
  · simp only [orders, spi, boards]

end Message.ToSimulator

namespace Controller.Stand

variable {c : Stand} {robot : Robot} {input input' : ToRobot} {output output' : ToSimulator}

theorem commandLegs_orders (p : Plan)
    (velocities : ∀ leg, input.velocities robot leg = input'.velocities robot leg)
    (legs : List Leg) (same : output.orders = output'.orders) :
    (c.commandLegs p robot input legs output).1 = (c.commandLegs p robot input' legs output').1 ∧
      (c.commandLegs p robot input legs output).2.orders =
        (c.commandLegs p robot input' legs output').2.orders := by
  induction legs generalizing output output' with
  | nil => exact ⟨rfl, same⟩
  | cons leg rest ih =>
    unfold commandLegs
    rw [velocities leg]
    split
    · exact ih (ToSimulator.orders_command same robot leg _ _)
    · exact ⟨rfl, same⟩

theorem run_orders (parameters : Parameter.Table)
    (velocities : ∀ leg, input.velocities robot leg = input'.velocities robot leg)
    (same : output.orders = output'.orders) :
    (c.run robot parameters input output).1 = (c.run robot parameters input' output').1 ∧
      (c.run robot parameters input output).2.1 = (c.run robot parameters input' output').2.1 ∧
      (c.run robot parameters input output).2.2.orders =
        (c.run robot parameters input' output').2.2.orders := by
  unfold run
  cases c.plan parameters with
  | error e => exact ⟨rfl, rfl, same⟩
  | ok p =>
    obtain ⟨result, orders⟩ := commandLegs_orders (c := c) p velocities (List.finRange legCount) same
    dsimp only
    generalize c.commandLegs p robot input (List.finRange legCount) output = commanded
      at result orders ⊢
    generalize c.commandLegs p robot input' (List.finRange legCount) output' = commanded'
      at result orders ⊢
    obtain ⟨r, after⟩ := commanded
    obtain ⟨r', after'⟩ := commanded'
    cases result
    cases r with
    | error e => exact ⟨rfl, rfl, orders⟩
    | ok _ => exact ⟨rfl, rfl, orders⟩

theorem prepare_positions
    (positions : ∀ leg, input.positions robot leg = input'.positions robot leg) :
    c.prepare robot input = c.prepare robot input' := by
  unfold prepare
  rw [funext positions]

theorem recordStart_ok {measured : Leg → PerJoint Single} {legs : List Leg}
    (finite : ∀ leg ∈ legs, (measured leg).toList.all Single.isFinite) (c : Stand) :
    (recordStart measured legs c).1 = .ok () := by
  induction legs generalizing c with
  | nil => rfl
  | cons leg rest ih =>
    unfold recordStart
    rw [if_pos (finite leg List.mem_cons_self)]
    exact ih (fun leg member => finite leg (List.mem_cons_of_mem _ member)) _

theorem iteration_prepare {c' : Stand} (prepared : c.prepare robot input = (.ok (), c')) :
    c'.iteration = 0 := by
  unfold prepare at prepared
  split at prepared
  · cases prepared
    rfl
  · cases prepared

end Controller.Stand

theorem Controller.prepare_stand {c c' : Stand} {robot : Robot} {input : ToRobot}
    {r : Except Error Unit} (prepared : c.prepare robot input = (r, c')) :
    (stand c).prepare robot input = (r, stand c') := by
  rw [prepare, prepared]

namespace Simulator.Plant

variable (p : Plant) (input : ToRobot)

theorem get_ofFn {n : Nat} {α : Type} (f : Fin n → α) (i : Fin n) : (Vector.ofFn f).get i = f i :=
  Vector.getElem_ofFn i.isLt

theorem column_rows (quantity : JointMotion → Double) (leg : Leg) :
    (p.rows quantity).column leg = (p.legs.get leg).map fun joint => (quantity joint).narrow := by
  apply Vector.ext
  intro i inside
  simp only [rows, JointTable.column, Vector.getElem_map, Vector.getElem_ofFn, get_ofFn]
  rfl

/-- A message shows where the joints of a plant are and how they move. -/
structure Shows (p : Plant) (input : ToRobot) : Prop where
  positions : ∀ leg, input.positions p.robot leg = (p.legs.get leg).map (·.position.narrow)
  velocities : ∀ leg, input.velocities p.robot leg = (p.legs.get leg).map (·.velocity.narrow)

theorem shows_feedback : p.Shows (p.feedback input) := by
  constructor
  case positions =>
    intro leg
    unfold ToRobot.positions feedback
    split
    · exact p.column_rows (·.position) leg
    · simp only [get_ofFn, boardFeedback]
  case velocities =>
    intro leg
    unfold ToRobot.velocities feedback
    split
    · exact p.column_rows (·.velocity) leg
    · simp only [get_ofFn, boardFeedback]

variable {p input}

/-- What a controller does with a plant hangs on what is shown of it. -/
theorem Shows.prepare {input' : ToRobot} (shows : p.Shows input) (shows' : p.Shows input')
    (c : Controller.Stand) : c.prepare p.robot input = c.prepare p.robot input' :=
  Controller.Stand.prepare_positions fun leg =>
    (shows.positions leg).trans (shows'.positions leg).symm

theorem step_orders (p : Plant) {command command' : ToSimulator} (same : command.orders = command'.orders)
    (duration : Duration) : p.step command duration = p.step command' duration := by
  obtain ⟨spi, boards⟩ := Prod.mk.inj same
  simp only [step, drives, spi, boards]

theorem prepare_start {robot : Robot} (shows : (start robot).Shows input)
    (c : Controller.Stand) : (c.prepare robot input).1 = .ok () := by
  have folded (leg : Leg) : input.positions robot leg = foldedPose.map (·.narrow) := by
    have still : (start robot).legs.get leg = foldedPose.map fun q => ⟨q, .zero, .zero⟩ :=
      Vector.getElem_replicate leg.isLt
    apply (shows.positions leg).trans
    rw [still, Vector.map_map]
    rfl
  have finite : ∀ leg ∈ List.finRange legCount,
      (input.positions robot leg).toList.all Single.isFinite := by
    intro leg _
    rw [folded]
    decide +kernel
  have recorded := Controller.Stand.recordStart_ok finite c
  unfold Controller.Stand.prepare
  generalize Controller.Stand.recordStart _ _ c = ended at recorded ⊢
  obtain ⟨r, c'⟩ := ended
  cases recorded
  rfl

end Simulator.Plant

end Lockstep
