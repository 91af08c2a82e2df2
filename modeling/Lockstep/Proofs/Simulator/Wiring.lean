import Lockstep.Proofs.Controller.Orders

/-! The wires between a controller and the joints of a plant.

A target goes in by the command of a leg and comes out as the drives of that
leg, joint by joint and quantity by quantity; a motion goes in by the feedback
and comes out as the measured joints. Each robot has its own pair of blocks, and
the other pair is neither written nor read.
-/

set_option autoImplicit false

namespace Lockstep

open Message Simulator

namespace Message

namespace JointTable

variable (t : JointTable) (values : PerJoint Single) {leg other : Leg}

theorem column_setColumn_self : (t.setColumn leg values).column leg = values := by
  apply Vector.ext
  intro i inside
  simp only [column, setColumn, Vector.getElem_map, Vector.getElem_zipWith]
  exact Vector.getElem_set_self leg.isLt

theorem column_setColumn_other (elsewhere : other ≠ leg) :
    (t.setColumn leg values).column other = t.column other := by
  apply Vector.ext
  intro i inside
  simp only [column, setColumn, Vector.getElem_map, Vector.getElem_zipWith]
  exact Vector.getElem_set_ne leg.isLt other.isLt fun same => elsewhere (Fin.ext same.symm)

end JointTable

namespace ToSimulator

variable (output : ToSimulator) {robot : Robot} (leg : Leg) (targets : PerJoint JointTarget)
  (limit : Single)

theorem command_spi (spi : robot.usesSpi = true) :
    output.command robot leg targets limit = { output with spi := output.spi.setLeg leg targets } :=
  if_pos spi

theorem command_board (boards : ¬ robot.usesSpi = true) :
    output.command robot leg targets limit =
      { output with
        boards := output.boards.set leg ((output.boards.get leg).setJoints targets limit)
          leg.isLt } := if_neg boards

/-- Two commands agree on the block that the legs of a robot hang on. -/
def Alike (robot : Robot) (output output' : ToSimulator) : Prop :=
  if robot.usesSpi then output.spi = output'.spi else output.boards = output'.boards

def AlikeUnused (robot : Robot) (output output' : ToSimulator) : Prop :=
  if robot.usesSpi then output.boards = output'.boards else output.spi = output'.spi

theorem command_unused (robot : Robot) :
    AlikeUnused robot (output.command robot leg targets limit) output := by
  unfold AlikeUnused command
  split
  · rfl
  · rfl

end ToSimulator

def ToRobot.AlikeUnused (robot : Robot) (input input' : ToRobot) : Prop :=
  if robot.usesSpi then input.boards = input'.boards else input.spi = input'.spi

end Message

namespace Simulator

variable (output : ToSimulator) (robot : Robot) {leg other : Leg} (targets : PerJoint JointTarget)
  (limit : Single)

def commandedLimit : Double :=
  if robot.usesSpi then defaultTorqueLimit else torqueLimit limit

theorem commandedLimit_eq : commandedLimit robot limit =
    if robot = .cheetah3 ∧ Single.lt .zero limit = true then limit.widen
    else defaultTorqueLimit := by
  cases robot with
  | cheetah3 => simp [commandedLimit, torqueLimit, Robot.usesSpi]
  | miniCheetah => simp [commandedLimit, Robot.usesSpi]
  | cyberdog => simp [commandedLimit, Robot.usesSpi]

omit output robot targets limit in
theorem get_map {α β : Type} {n : Nat} (xs : Vector α n) (f : α → β) (i : Fin n) :
    (xs.map f).get i = f (xs.get i) := Vector.getElem_map f i.isLt

theorem drives_command_self :
    drives robot (output.command robot leg targets limit) leg =
      targets.map fun t => .ofTarget t (commandedLimit robot limit) true := by
  apply Vector.ext
  intro j inside
  rw [Vector.getElem_map]
  by_cases spi : robot.usesSpi = true
  · have enabled : (output.spi.setLeg leg targets).flags.get leg = 1 :=
      Vector.getElem_set_self leg.isLt
    rw [output.command_spi leg targets limit spi, drives, if_pos spi, commandedLimit, if_pos spi]
    simp only [Vector.getElem_ofFn, enabled]
    simp only [SpiCommand.setLeg, JointTable.column_setColumn_self, get_map]
    rfl
  · have board : (output.boards.set leg ((output.boards.get leg).setJoints targets limit)
        leg.isLt).get leg = (output.boards.get leg).setJoints targets limit :=
      Vector.getElem_set_self leg.isLt
    rw [output.command_board leg targets limit spi, drives, if_neg spi, commandedLimit, if_neg spi]
    simp only [Vector.getElem_ofFn, board]
    simp only [BoardCommand.setJoints, get_map]
    rfl

theorem drives_command_other (elsewhere : other ≠ leg) :
    drives robot (output.command robot leg targets limit) other = drives robot output other := by
  have apart : leg.val ≠ other.val := fun same => elsewhere (Fin.ext same.symm)
  by_cases spi : robot.usesSpi = true
  · have flags : (output.spi.setLeg leg targets).flags.get other = output.spi.flags.get other :=
      Vector.getElem_set_ne leg.isLt other.isLt apart
    rw [output.command_spi leg targets limit spi, drives, drives, if_pos spi, if_pos spi]
    simp only [flags]
    simp only [SpiCommand.setLeg, JointTable.column_setColumn_other _ _ elsewhere]
  · have board : (output.boards.set leg ((output.boards.get leg).setJoints targets limit)
        leg.isLt).get other = output.boards.get other :=
      Vector.getElem_set_ne leg.isLt other.isLt apart
    rw [output.command_board leg targets limit spi, drives, drives, if_neg spi, if_neg spi]
    simp only [board]

theorem drives_alike {output output' : ToSimulator} (alike : output.Alike robot output')
    (leg : Leg) : drives robot output leg = drives robot output' leg := by
  unfold ToSimulator.Alike at alike
  unfold drives
  split at alike
  next spi => rw [if_pos spi, if_pos spi, alike]
  next boards => rw [if_neg boards, if_neg boards, alike]

namespace Plant

variable (p : Plant) (input : ToRobot)

theorem step_alike {output output' : ToSimulator} (alike : output.Alike p.robot output')
    (duration : Duration) : p.step output duration = p.step output' duration := by
  simp only [step, drives_alike p.robot alike]

theorem feedback_keeps :
    (p.feedback input).robotCode = input.robotCode ∧ (p.feedback input).modeCode = input.modeCode ∧
      (p.feedback input).gamepad = input.gamepad ∧
      (p.feedback input).request = input.request := by
  unfold feedback
  dsimp only
  split
  · exact ⟨rfl, rfl, rfl, rfl⟩
  · exact ⟨rfl, rfl, rfl, rfl⟩

theorem feedback_unused : (p.feedback input).AlikeUnused p.robot input := by
  unfold ToRobot.AlikeUnused feedback
  split
  · rfl
  · rfl

/-- What a controller commands is what drives the joints, and what a plant does is what a
controller measures; on the way neither touches anything else. -/
theorem wired (output : ToSimulator) (leg : Leg) (targets : PerJoint JointTarget)
    (limit : Single) :
    (∀ joint, (drives p.robot (output.command p.robot leg targets limit) leg).get joint =
      { position := (targets.get joint).position.widen
        velocity := (targets.get joint).velocity.widen
        stiffness := (targets.get joint).stiffness.widen
        damping := (targets.get joint).damping.widen
        feedForward := (targets.get joint).torque.widen
        limit :=
          if p.robot = .cheetah3 ∧ Single.lt .zero limit = true then limit.widen
          else defaultTorqueLimit
        enabled := true }) ∧
    (∀ other, other ≠ leg → drives p.robot (output.command p.robot leg targets limit) other =
      drives p.robot output other) ∧
    (output.command p.robot leg targets limit).AlikeUnused p.robot output ∧
    (∀ leg, (p.feedback input).positions p.robot leg = (p.positions leg).map (·.narrow) ∧
      (p.feedback input).velocities p.robot leg = (p.velocities leg).map (·.narrow)) ∧
    (p.feedback input).robotCode = input.robotCode ∧
    (p.feedback input).modeCode = input.modeCode ∧
    (p.feedback input).gamepad = input.gamepad ∧
    (p.feedback input).request = input.request ∧
    (p.feedback input).AlikeUnused p.robot input ∧
    ∀ output', output.Alike p.robot output' →
      ∀ duration, p.step output duration = p.step output' duration := by
  obtain ⟨robotCode, modeCode, gamepad, request⟩ := p.feedback_keeps input
  refine ⟨?_, ?_, ?_, ?_, robotCode, modeCode, gamepad, request, p.feedback_unused input, ?_⟩
  · intro joint
    rw [drives_command_self, ← commandedLimit_eq]
    exact Vector.getElem_map _ joint.isLt
  · exact fun other elsewhere => drives_command_other output p.robot targets limit elsewhere
  · exact output.command_unused leg targets limit p.robot
  · intro leg
    have shows := p.shows_feedback input
    constructor
    · rw [shows.positions, positions, Vector.map_map]
      rfl
    · rw [shows.velocities, velocities, Vector.map_map]
      rfl
  · exact fun output' alike duration => p.step_alike alike duration

/-- A Cheetah 3 takes the limit of its boards, and the SPI block moves none of its joints. -/
theorem cheetah3_wired :
    let hip : Joint := ⟨1, by decide⟩
    let front : Leg := ⟨1, by decide⟩
    let hind : Leg := ⟨2, by decide⟩
    let target : JointTarget := ⟨0.5, .zero, 60.0, 2.0, .one⟩
    let commanded := (default : ToSimulator).command .cheetah3 hind (.replicate _ target) 40.0
    (drives .cheetah3 commanded hind).get hip = ⟨0.5, .zero, 60.0, 2.0, 1.0, 40.0, true⟩ ∧
      drives .cheetah3 commanded front = drives .cheetah3 default front ∧
      ((start .cheetah3).feedback default).spi = default ∧
      ∀ duration, (start .cheetah3).step commanded duration =
        (start .cheetah3).step { commanded with spi := commanded.spi.setLeg hind default }
          duration := by
  intro hip front hind target commanded
  obtain ⟨driven, elsewhere, _, _, _, _, _, _, unused, _⟩ :=
    (start .cheetah3).wired default default hind (.replicate _ target) 40.0
  obtain ⟨_, _, _, _, _, _, _, _, _, same⟩ :=
    (start .cheetah3).wired default commanded hind default .zero
  refine ⟨(driven hip).trans (by decide +kernel), elsewhere front (by decide), unused, ?_⟩
  exact same { commanded with spi := commanded.spi.setLeg hind default } rfl

end Plant

end Simulator

end Lockstep
