import Lockstep.Proofs.Bridge.Driven
import Lockstep.Proofs.Bridge.Fault
import Lockstep.Proofs.Simulator.Headless
import Lockstep.Proofs.Simulator.Streamed

/-! A plant and its controller in one program, and the same two over a channel.

In one program they share a message, and each cycle is feedback, an iteration
and a step. Over a channel every cycle comes to the same, as long as the turn is
served.
-/

set_option autoImplicit false

namespace Lockstep.Simulator

open Channel Message Parameter Bridge Effect

/-- A plant and its controller, with one message between them. -/
structure Bench where
  plant : Plant
  controller : Controller.Stand
  message : Message
  -- Cycles that went through.
  cycles : Nat

namespace Bench

def start (robot : Robot) (user : Table) : Bench :=
  ⟨.start robot, { Controller.Stand.fresh with user := user }, default, 0⟩

def sense (b : Bench) : Bench :=
  { b with message := { b.message with toRobot := b.plant.feedback b.message.toRobot } }

def prepare (b : Bench) : Except Controller.Error Unit × Bench :=
  let (result, controller) := b.controller.prepare b.plant.robot b.message.toRobot
  (result, { b with controller := controller })

/-- Feedback, an iteration of the controller, and a step of the plant if it went through. -/
def cycle (parameters : Table) (period : Duration) (b : Bench) :
    Except Controller.Error Unit × Bench :=
  let b := b.sense
  match b.controller.run b.plant.robot parameters b.message.toRobot b.message.toSimulator with
  | (.error e, controller, output) =>
    (.error e, { b with controller := controller, message := b.message.reply output })
  | (.ok (), controller, output) =>
    (.ok (), ⟨b.plant.step output period, controller, b.message.reply output, b.cycles + 1⟩)

def loop (parameters : Table) (period : Duration) : Nat → Bench → Except Controller.Error Unit × Bench
  | 0, b => (.ok (), b)
  | n + 1, b =>
    match b.cycle parameters period with
    | (.error e, b) => (.error e, b)
    | (.ok (), b) => loop parameters period n b

/-- First feedback, one preparation of the controller, and then a number of cycles. -/
def run (robot : Robot) (parameters user : Table) (period : Duration) (n : Nat) :
    Except Controller.Error Unit × Bench :=
  match (start robot user).sense.prepare with
  | (.error e, b) => (.error e, b)
  | (.ok (), b) => loop parameters period n b

variable {parameters : Table} {period : Duration}

section

variable {b : Bench} {c : Controller.Stand} {output : ToSimulator}

theorem cycle_error {e : Controller.Error} (ran : b.controller.run b.plant.robot parameters
      b.sense.message.toRobot b.message.toSimulator = (.error e, c, output)) :
    b.cycle parameters period =
      (.error e, { b with controller := c, message := b.sense.message.reply output }) := by
  have same : b.sense.controller.run b.sense.plant.robot parameters b.sense.message.toRobot
    b.sense.message.toSimulator = (.error e, c, output) := ran
  unfold cycle
  dsimp only
  rw [same]
  rfl

theorem cycle_ok (ran : b.controller.run b.plant.robot parameters b.sense.message.toRobot
      b.message.toSimulator = (.ok (), c, output)) :
    b.cycle parameters period = (.ok (),
      ⟨b.plant.step output period, c, b.sense.message.reply output, b.cycles + 1⟩) := by
  have same : b.sense.controller.run b.sense.plant.robot parameters b.sense.message.toRobot
    b.sense.message.toSimulator = (.ok (), c, output) := ran
  unfold cycle
  dsimp only
  rw [same]
  rfl

end

theorem cycles_cycle {b b' : Bench} {r : Except Controller.Error Unit}
    (ran : b.cycle parameters period = (r, b')) :
    b'.cycles = b.cycles + if r.isOk then 1 else 0 := by
  unfold cycle at ran
  dsimp only at ran
  split at ran
  · cases ran
    rfl
  · cases ran
    rfl

theorem cycles_loop {n : Nat} {b b' : Bench} {r : Except Controller.Error Unit}
    (ran : loop parameters period n b = (r, b')) :
    b'.cycles ≤ b.cycles + n ∧ (r = .ok () ↔ b'.cycles = b.cycles + n) := by
  induction n generalizing b with
  | zero =>
    cases ran
    exact ⟨Nat.le_refl _, fun _ => rfl, fun _ => rfl⟩
  | succ n ih =>
    unfold loop at ran
    rcases went : b.cycle parameters period with ⟨e | _, next⟩
    · rw [went] at ran
      cases ran
      have counted : b'.cycles = b.cycles := cycles_cycle went
      refine ⟨by omega, nofun, fun all => ?_⟩
      omega
    · rw [went] at ran
      have counted : next.cycles = b.cycles + 1 := cycles_cycle went
      obtain ⟨most, all⟩ := ih ran
      rw [counted, Nat.add_assoc, Nat.add_comm 1 n] at most all
      exact ⟨most, all⟩

theorem prepare_ok (robot : Robot) (user : Table) :
    ∃ c : Controller.Stand, c.iteration = 0 ∧
      (start robot user).sense.prepare =
        (.ok (), { (start robot user).sense with controller := c }) ∧
      ∀ input, (Plant.start robot).Shows input →
        (start robot user).controller.prepare robot input = (.ok (), c) := by
  have shows := (Plant.start robot).shows_feedback (default : Message).toRobot
  have went := Plant.prepare_start shows (start robot user).controller
  rcases prepared : (start robot user).controller.prepare robot
    ((Plant.start robot).feedback (default : Message).toRobot) with ⟨r, c⟩
  rw [prepared] at went
  obtain rfl : r = .ok () := went
  refine ⟨c, Controller.Stand.iteration_prepare prepared, ?_, fun input other => ?_⟩
  · unfold prepare
    have same : (start robot user).sense.controller.prepare (start robot user).sense.plant.robot
      (start robot user).sense.message.toRobot = (.ok (), c) := prepared
    rw [same]
  · exact (other.prepare shows _).trans prepared

theorem cycles_run {robot : Robot} {user : Table} {n : Nat}
    {r : Except Controller.Error Unit} {b : Bench}
    (ran : run robot parameters user period n = (r, b)) :
    b.cycles ≤ n ∧ (r = .ok () ↔ b.cycles = n) := by
  obtain ⟨c, -, prepared, -⟩ := prepare_ok robot user
  rw [run, prepared] at ran
  have counted := cycles_loop ran
  have none : ({ (start robot user).sense with controller := c } : Bench).cycles = 0 := rfl
  rw [none, Nat.zero_add] at counted
  exact counted

end Bench

/-- A run that is as far as a bench: the plant is the same and has the same commands before it,
and the robot's next controller turn gets as far as the bench's controller. -/
structure Beside (parameters : Table) (b : Bench) (p : Program) (m : Message) (d : Drill Crew) :
    Prop where
  abreast : Abreast p m d.session
  plant : d.plant = b.plant
  cycles : d.cycles = b.cycles
  orders : m.toSimulator.orders = b.message.toSimulator.orders
  robot : p.robot = b.plant.robot
  parameters : p.parameters = parameters
  drives : ∀ input, b.plant.Shows input → p.Drives input (.stand b.controller)
  iterations : p.controller.iterations? = some b.controller.iteration

def Counted (b : Bench) (crew : Crew) : Prop :=
  ∃ mate, crew.mates = [mate] ∧
    mate.bridge.program.controller.iterations? = some b.controller.iteration

/-- How a part of a run ends, beside what it comes to on a bench: without a turn that was
not served, in the same way. -/
inductive Paces {β : Type} (parameters : Table) (a : β) : Except Controller.Error Unit × Bench →
    Except Error β → Drill Crew → Prop where
  | away {ended : Except Controller.Error Unit × Bench} {e : Error} {d : Drill Crew} :
      ¬ AllServed d.session → Paces parameters a ended (.error e) d
  | goes {b : Bench} {p : Program} {m : Message} {d : Drill Crew} : Beside parameters b p m d →
      Paces parameters a (.ok (), b) (.ok a) d
  | fails {c : Controller.Error} {b : Bench} {d : Drill Crew} : d.plant = b.plant →
      d.cycles = b.cycles → Counted b d.session.world.peer →
      Paces parameters a (.error c, b)
        (.error (.robotStalled (some ("controller: " ++ c.message)))) d

variable {parameters : Table} {b : Bench} {p : Program} {m : Message} {d : Drill Crew}

/-- A controller turn of the robot is what the bench does in a cycle. -/
theorem Beside.serve (beside : Beside parameters b p m d) {asked : Message}
    (mode : asked.mode? = some .runController) (shows : b.plant.Shows asked.toRobot)
    (half : asked.toSimulator = m.toSimulator) {r : Except Controller.Error Unit}
    {c : Controller.Stand} {output : ToSimulator}
    (ran : b.controller.run b.plant.robot parameters b.sense.message.toRobot
      b.message.toSimulator = (r, c, output)) :
    ∃ output' records, output'.orders = output.orders ∧
      p.serve asked = ((r.mapError .controller).map fun _ => .runController,
        ⟨{ p.accepted with controller := .stand c, ready := true }, output', records⟩) := by
  have sensed : b.plant.Shows b.sense.message.toRobot := b.plant.shows_feedback _
  have velocities (leg : Leg) : b.sense.message.toRobot.velocities b.plant.robot leg =
      asked.toRobot.velocities b.plant.robot leg :=
    (sensed.velocities leg).trans (shows.velocities leg).symm
  have orders : b.message.toSimulator.orders = (p.signed asked).orders := by
    rw [← beside.orders, ← half]
    rfl
  obtain ⟨result, next, commanded⟩ :=
    Controller.Stand.run_orders (c := b.controller) parameters velocities orders
  rw [ran] at result next commanded
  rcases ran' : b.controller.run b.plant.robot parameters asked.toRobot (p.signed asked) with
    ⟨r', c', output'⟩
  rw [ran'] at result next commanded
  cases result
  cases next
  have drove : (Controller.stand b.controller).run p.robot p.parameters asked.toRobot
      (p.signed asked) = (r, .stand c, output') := by
    rw [beside.robot, beside.parameters, Controller.run, ran']
  obtain ⟨records, served⟩ := Program.serve_driving (.inl beside.abreast.confirmed) mode
    (beside.drives _ shows) drove
  exact ⟨output', records, commanded.symm, served⟩

namespace Running

theorem cycle_paces (beside : Beside parameters b p m d) (period : Duration) :
    Ends (cycle period) d (Paces parameters () (b.cycle parameters period)) := by
  obtain ⟨session, plant, cycles⟩ := d
  obtain rfl : plant = b.plant := beside.plant
  obtain rfl : cycles = b.cycles := beside.cycles
  unfold cycle
  apply Ends.step (run_get _)
  apply (talk_keeps (Talk.sense_abreast beside.abreast b.plant.request_feedback)).bind
  · rintro e t ⟨⟨went, -⟩, -⟩
    cases went
  rintro _ ⟨t, _, _⟩ ⟨⟨-, abreast⟩, rfl, rfl⟩
  generalize shown : (⟨m.toSimulator, b.plant.feedback m.toRobot⟩ : Message) = m₁ at abreast
  have shows : b.plant.Shows (m₁.setMode .runController).toRobot := by
    have feedback := b.plant.shows_feedback m.toRobot
    subst shown
    exact ⟨feedback.positions, feedback.velocities⟩
  have half : (m₁.setMode .runController).toSimulator = m.toSimulator := by
    subst shown
    rfl
  rcases ran : b.controller.run b.plant.robot parameters b.sense.message.toRobot
    b.message.toSimulator with ⟨r, c, output⟩
  obtain ⟨output', records, orders, served⟩ :=
    beside.serve (Talk.mode?_setMode _ _) shows half ran
  have turned := Talk.exchange_turned abreast .runController (by rw [served]; rfl)
  rw [served] at turned
  cases r with
  | error e =>
    rw [Bench.cycle_error ran]
    apply (talk_keeps turned).bind
    · rintro err ⟨u, _, _⟩ ⟨ended, rfl, rfl⟩
      cases ended with
      | away unserved => exact .away unserved
      | fell mate =>
        have failed : ((Controller.stand b.controller).run b.plant.robot parameters
            b.sense.message.toRobot b.message.toSimulator).1 = .error e := by
          rw [Controller.run, ran]
        rw [faultText?_controller output' (Controller.run_error failed)]
        obtain ⟨mate, only, program⟩ := mate
        refine .fails rfl rfl ⟨mate, only, ?_⟩
        rw [program]
        rfl
    · rintro _ u ⟨ended, -⟩
      cases ended
  | ok _ =>
    rw [Bench.cycle_ok ran]
    apply (talk_keeps turned).bind
    · rintro e ⟨u, _, _⟩ ⟨ended, rfl, rfl⟩
      cases ended with
      | away unserved => exact .away unserved
    · rintro _ ⟨u, _, _⟩ ⟨ended, rfl, rfl⟩
      cases ended with
      | back abreast =>
        apply Ends.step (run_message abreast.dealing.phase abreast.dealing.content)
        have moved : b.plant.step output' period = b.plant.step output period :=
          b.plant.step_orders orders period
        refine .of_run rfl (.goes ⟨abreast.noted _, moved, rfl, orders, ?_, ?_, ?_, ?_⟩)
        · exact beside.robot
        · exact beside.parameters
        · intro input _
          unfold Program.Drives
          rfl
        · rfl

/-- With nobody to stop it, a run goes on as long as the bench does. -/
theorem cycles_paces {n budget fuel : Nat} (beside : Beside parameters b p m d)
    (left : d.cycles + n = budget) (enough : n < fuel) (period : Duration) :
    Ends (cycles (fun _ => true) (some budget) period fuel) d
      (Paces parameters true (b.loop parameters period n)) := by
  induction n generalizing b p m d fuel with
  | zero =>
    obtain ⟨fuel, rfl⟩ := Nat.exists_eq_add_one_of_ne_zero (Nat.ne_of_gt enough)
    have spent : (some budget).all (d.cycles < ·) = false := by
      simp [← left]
    unfold cycles
    apply Ends.step (run_get d)
    simp only [Bool.not_true, Bool.false_eq_true, if_false, spent]
    exact .of_run (run_pure _ _) (.goes beside)
  | succ n ih =>
    obtain ⟨fuel, rfl⟩ := Nat.exists_eq_add_one_of_ne_zero (Nat.ne_of_gt (Nat.zero_lt_of_lt enough))
    have open' : (some budget).all (d.cycles < ·) = true := by
      simp [← left]
    unfold cycles
    apply Ends.step (run_get d)
    simp only [Bool.not_true, Bool.false_eq_true, if_false, open', if_true]
    have first := cycle_paces beside period
    unfold Bench.loop
    rcases ended : b.cycle parameters period with ⟨e | _, next⟩
    · rw [ended] at first
      apply first.bind
      · intro err u paces
        cases paces with
        | away unserved => exact .away unserved
        | fails plant cycles counted => exact .fails plant cycles counted
      · intro _ u paces
        cases paces
    · rw [ended] at first
      have counted : next.cycles = b.cycles + 1 := Bench.cycles_cycle ended
      apply first.bind
      · intro err u paces
        cases paces with
        | away unserved => exact .away unserved
      · intro _ u paces
        cases paces with
        | goes later =>
          refine ih later ?_ (Nat.lt_of_succ_lt_succ enough)
          rw [later.cycles, counted, ← beside.cycles, ← left]
          omega

end Running

end Lockstep.Simulator
