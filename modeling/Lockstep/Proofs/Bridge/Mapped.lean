import Lockstep.Bridge.Crash

/-! Crash reports in the memory that two peers share.

A crash is reported without regard to whose turn it is, so all depends on where it
is written: the fault buffer lies within the robot's half of the message, and
a report stays within the buffer that was armed.
-/

set_option autoImplicit false

namespace Lockstep.Bridge

open Wire Message

def offsetOf (α : Type) [layout : Layout α] (name : String) : Nat :=
  ((layout.placements.find? (·.name == name)).map (·.offset)).getD 0

def toRobotOffset : Nat := offsetOf Message "sim_to_robot"

def faultOffset : Nat :=
  offsetOf Message "robot_to_sim" + offsetOf ToSimulator "error_message"

theorem fault_before_toRobot : faultOffset + faultCapacity ≤ toRobotOffset := by decide +kernel

theorem toRobot_within : toRobotOffset ≤ Layout.size Message := by decide +kernel

theorem decode_toRobot (bytes : List UInt8) :
    (Layout.decode bytes : Message).toRobot = Layout.decode (bytes.drop toRobotOffset) := rfl

theorem decode_fault (bytes : List UInt8) : (Layout.decode bytes : Message).toSimulator.fault =
    padded faultCapacity (bytes.drop faultOffset) := rfl

/-- The bytes of the shared regions, as a process has them mapped. -/
abbrev Memory := Nat → List UInt8

def Memory.Mapped (memory : Memory) : Prop := ∀ id, Layout.size Message ≤ (memory id).length

inductive Crash where
  | panic (text : String)
  | signal (number : Nat)

namespace CrashSite

def crash (s : CrashSite) : Crash → CrashSite
  | .panic text => s.panic text
  | .signal number => s.signal number

/-- A crash is written to the buffer that was armed last, and to no other. -/
theorem crash_elsewhere (s : CrashSite) (c : Crash) {buffer : Nat}
    (other : s.target ≠ some buffer) : (s.crash c).buffers buffer = s.buffers buffer := by
  have kept {armed : Nat} (target : s.target = some armed) (f : FaultBuffer → FaultBuffer) :
      (s.modify armed f).buffers buffer = s.buffers buffer := by
    refine if_neg fun same => other ?_
    rw [same, target]
  cases c with
  | panic text =>
    simp only [crash, panic]
    split
    next => rfl
    next armed target => exact kept target _
  | signal number =>
    simp only [crash, signal]
    split
    next armed text target _ => exact kept target _
    next => rfl

/-- The fault buffers where they lie in the regions. -/
def of (memory : Memory) (target : Option Nat) : CrashSite :=
  ⟨fun id => padded faultCapacity ((memory id).drop faultOffset), target⟩

def into (s : CrashSite) (memory : Memory) : Memory := fun id =>
  (memory id).take faultOffset ++
    ((s.buffers id).toList ++ (memory id).drop (faultOffset + faultCapacity))

variable {s : CrashSite} {memory : Memory}

theorem room (mapped : memory.Mapped) (id : Nat) :
    faultOffset + faultCapacity ≤ (memory id).length :=
  Nat.le_trans fault_before_toRobot (Nat.le_trans toRobot_within (mapped id))

theorem take_into (mapped : memory.Mapped) (id : Nat) :
    (s.into memory id).take faultOffset = (memory id).take faultOffset := by
  have length : ((memory id).take faultOffset).length = faultOffset :=
    List.length_take_of_le (Nat.le_trans (Nat.le_add_right _ _) (room mapped id))
  unfold into
  rw [List.take_left' length]

theorem drop_into (mapped : memory.Mapped) (id : Nat) {offset : Nat}
    (beyond : faultOffset + faultCapacity ≤ offset) :
    (s.into memory id).drop offset = (memory id).drop offset := by
  obtain ⟨more, rfl⟩ := Nat.exists_eq_add_of_le beyond
  have length : ((memory id).take faultOffset ++ (s.buffers id).toList).length =
      faultOffset + faultCapacity := by
    rw [List.length_append, List.length_take_of_le, Vector.length_toList]
    exact Nat.le_trans (Nat.le_add_right _ _) (room mapped id)
  unfold into
  rw [← List.append_assoc, ← List.drop_drop, List.drop_left' length, List.drop_drop]

theorem fault_into (mapped : memory.Mapped) (id : Nat) :
    (Layout.decode (s.into memory id) : Message).toSimulator.fault = s.buffers id := by
  have before : ((memory id).take faultOffset).length = faultOffset :=
    List.length_take_of_le (Nat.le_trans (Nat.le_add_right _ _) (room mapped id))
  have length : (s.buffers id).toList.length = faultCapacity := Vector.length_toList
  rw [decode_fault]
  unfold into
  rw [List.drop_left' before]
  apply Vector.toList_inj.mp
  rw [toList_padded, List.take_left' length, List.length_append, length, Nat.sub_eq_zero_of_le
    (Nat.le_add_right _ _), List.replicate_zero, List.append_nil]

theorem into_kept (mapped : memory.Mapped) (id : Nat)
    (kept : s.buffers id = padded faultCapacity ((memory id).drop faultOffset)) :
    s.into memory id = memory id := by
  have enough : faultCapacity ≤ ((memory id).drop faultOffset).length := by
    have := room mapped id
    rw [List.length_drop]
    omega
  unfold into
  rw [kept, toList_padded, Nat.sub_eq_zero_of_le enough, List.replicate_zero, List.append_nil,
    ← List.drop_drop, List.take_append_drop, List.take_append_drop]

end CrashSite

/-- Memory after a crash of a process that armed the fault buffer of one of the regions. -/
def Memory.crashed (memory : Memory) (target : Option Nat) (c : Crash) : Memory :=
  ((CrashSite.of memory target).crash c).into memory

/-- A crash leaves every half that is written by a simulator alone, and of all regions
changes only the one whose buffer was armed. -/
theorem Memory.crashed_spares {memory : Memory} (mapped : memory.Mapped) (target : Option Nat)
    (c : Crash) (id : Nat) :
    (Layout.decode (memory.crashed target c id) : Message).toRobot =
      (Layout.decode (memory id) : Message).toRobot ∧
    (memory.crashed target c id).take faultOffset = (memory id).take faultOffset ∧
    (Layout.decode (memory.crashed target c id) : Message).toSimulator.fault =
      ((CrashSite.of memory target).crash c).buffers id ∧
    (target ≠ some id → memory.crashed target c id = memory id) := by
  refine ⟨?_, CrashSite.take_into mapped id, CrashSite.fault_into mapped id, fun other => ?_⟩
  · rw [decode_toRobot, decode_toRobot]
    exact congrArg Layout.decode (CrashSite.drop_into mapped id fault_before_toRobot)
  · exact CrashSite.into_kept mapped id (CrashSite.crash_elsewhere _ c other)

end Lockstep.Bridge
