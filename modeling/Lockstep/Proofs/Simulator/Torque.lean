import Lockstep.Proofs.Number.Order
import Lockstep.Proofs.Simulator.Wiring

/-! Limits of the torque on a joint.

A command comes from memory that a peer writes, so every pattern of bits can stand
in it. Still the limit of each joint is a positive number: only a limit that compares as positive
is taken, which a NaN does not, and it is widened without rounding. So the bounds of the
clamp are in order, and whatever torque comes of the command, what is left of it lies
between them if it is a number at all.
-/

set_option autoImplicit false

namespace Lockstep

open Message Simulator

def Message.ToSimulator.Enables (command : ToSimulator) (robot : Robot) (leg : Leg) : Prop :=
  if robot.usesSpi then command.spi.flags.get leg ≠ 0 else (command.boards.get leg).enable ≠ 0

namespace Simulator

def Drive.wanted (d : Drive) (position velocity : Double) : Double :=
  d.stiffness * (d.position - position) + d.damping * (d.velocity - velocity) + d.feedForward

/-- Torque on a joint, by a clamp that insists on bounds in order. -/
def Drive.torqueInPlace (d : Drive) (position velocity : Double) : Option Double :=
  if d.enabled then (d.wanted position velocity).clampInPlace (-d.limit) d.limit else some .zero

namespace Drive

variable {d : Drive}

theorem torque_of_enabled (enabled : d.enabled = true) (position velocity : Double) :
    d.torque position velocity = (d.wanted position velocity).clamp (-d.limit) d.limit :=
  if_pos enabled

theorem torque_of_disabled (disabled : d.enabled = false) (position velocity : Double) :
    d.torque position velocity = .zero := if_neg (by simp [disabled])

theorem torqueInPlace_eq (bounds : (-d.limit).le d.limit = true) (position velocity : Double) :
    d.torqueInPlace position velocity = some (d.torque position velocity) := by
  unfold torqueInPlace
  cases enabled : d.enabled with
  | true => rw [if_pos rfl, Double.clampInPlace_eq bounds, torque_of_enabled enabled]
  | false => rw [if_neg (by decide), torque_of_disabled enabled]

end Drive

theorem zero_lt_torqueLimit (asked : Single) : Double.zero.lt (torqueLimit asked) = true := by
  unfold torqueLimit
  split
  next positive =>
    rw [Single.zero_lt_iff] at positive
    rw [Double.zero_lt_iff]
    exact asked.widen_finer.positive positive
  next => decide +kernel

/-- A NaN asks for no limit; the least number beyond zero is one, and a double of full width. -/
example : torqueLimit ⟨0x7fc00000⟩ = defaultTorqueLimit ∧
    torqueLimit ⟨0x00000001⟩ = ⟨0x36a0000000000000⟩ := by decide +kernel

theorem zero_lt_commandedLimit (robot : Robot) (asked : Single) :
    Double.zero.lt (commandedLimit robot asked) = true := by
  have standing : torqueLimit .zero = defaultTorqueLimit := rfl
  unfold commandedLimit
  split
  · exact standing ▸ zero_lt_torqueLimit .zero
  · exact zero_lt_torqueLimit asked

variable (robot : Robot) (command : ToSimulator) (leg : Leg) (joint : Joint)

theorem drives_limit : ((drives robot command leg).get joint).limit =
    commandedLimit robot (command.boards.get leg).maxTorque := by
  unfold drives commandedLimit
  split
  · rw [Plant.get_ofFn]
    rfl
  · rw [Plant.get_ofFn]
    rfl

theorem drives_enabled : ((drives robot command leg).get joint).enabled = true ↔
    command.Enables robot leg := by
  unfold drives ToSimulator.Enables
  split
  · rw [Plant.get_ofFn]
    exact decide_eq_true_iff
  · rw [Plant.get_ofFn]
    exact decide_eq_true_iff

theorem bounds_of_positive {limit : Double} (positive : Double.zero.lt limit = true) :
    limit.isNaN = false ∧ (-limit).isNaN = false ∧ (-limit).le limit = true := by
  obtain ⟨-, number, beyond⟩ := Double.lt_iff.mp positive
  have other : (-limit).isNaN = false := limit.isNaN_neg.trans number
  have zero : Double.zero.rank = 0 := rfl
  rw [zero] at beyond
  refine ⟨number, other, Double.le_iff.mpr ⟨other, number, ?_⟩⟩
  rw [limit.rank_neg]
  omega

namespace Plant

variable (p : Plant)

/-- The torque that a step leaves on a joint is the one of its command where the joint was. -/
theorem step_torque (duration : Duration) :
    (((p.step command duration).legs.get leg).get joint).torque =
      ((drives p.robot command leg).get joint).torque
        ((p.legs.get leg).get joint).position ((p.legs.get leg).get joint).velocity := by
  rw [step, get_ofFn]
  exact congrArg JointMotion.torque (Vector.getElem_zipWith joint.isLt)

/-- Whatever the bits of a command, each joint has a limit that is a number beyond zero, so that the
clamp never stops the simulator, in no position and at no velocity of the joint. A joint that is
not enabled has no torque; the torque on one that is enabled is a NaN or within the limit on
either side. Of the sums and products in front of the clamp nothing is used: what goes in as a
number comes out between the bounds, and as it was if it lay there before. -/
theorem torque_limited (leg : Leg) (joint : Joint) :
    let d := (drives p.robot command leg).get joint
    Double.zero.lt d.limit = true ∧ d.limit.isNaN = false ∧ (-d.limit).isNaN = false ∧
    (-d.limit).le d.limit = true ∧
    (∀ position velocity,
      d.torqueInPlace position velocity = some (d.torque position velocity) ∧
      (¬ command.Enables p.robot leg → d.torque position velocity = .zero) ∧
      (command.Enables p.robot leg → (d.torque position velocity).isNaN = true ∨
        (-d.limit).le (d.torque position velocity) = true ∧
          (d.torque position velocity).le d.limit = true)) ∧
    (∀ wanted : Double,
      wanted.clampInPlace (-d.limit) d.limit = some (wanted.clamp (-d.limit) d.limit) ∧
      wanted.Between (-d.limit) d.limit (wanted.clamp (-d.limit) d.limit)) ∧
    ∀ duration, d.torqueInPlace ((p.legs.get leg).get joint).position
      ((p.legs.get leg).get joint).velocity =
        some (((p.step command duration).legs.get leg).get joint).torque := by
  intro d
  have positive : Double.zero.lt d.limit = true := by
    rw [show d.limit = _ from drives_limit p.robot command leg joint]
    exact zero_lt_commandedLimit p.robot _
  obtain ⟨number, other, bounds⟩ := bounds_of_positive positive
  have enabled_iff := drives_enabled p.robot command leg joint
  refine ⟨positive, number, other, bounds, ?each, ?clamp, ?step⟩
  case each =>
    intro position velocity
    refine ⟨Drive.torqueInPlace_eq bounds position velocity, ?off, ?on⟩
    case off =>
      intro off
      have disabled : d.enabled = false := Bool.eq_false_iff.mpr (mt enabled_iff.mp off)
      exact Drive.torque_of_disabled disabled position velocity
    case on =>
      intro on
      rw [Drive.torque_of_enabled (enabled_iff.mpr on)]
      obtain ⟨same, bounded, -⟩ := Double.clamp_between bounds (d.wanted position velocity)
      cases wanted : (d.wanted position velocity).isNaN with
      | true => exact .inl (same.trans wanted)
      | false => exact .inr (bounded wanted)
  case clamp =>
    exact fun wanted => ⟨Double.clampInPlace_eq bounds wanted, Double.clamp_between bounds wanted⟩
  case step =>
    intro duration
    rw [Drive.torqueInPlace_eq bounds, p.step_torque command leg joint duration]

end Plant

end Simulator

end Lockstep
