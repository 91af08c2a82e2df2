/-! What the simulator asks of the robot for one turn. -/

set_option autoImplicit false

namespace Lockstep

inductive Mode where
  -- Answer the pending parameter request; the controller does not run.
  | applyParameters
  | runController
  -- Nothing but a sign of life.
  | idle
  -- Finish the turn and stop.
  | exit
  deriving DecidableEq, Repr

namespace Mode

def code : Mode → UInt32
  | applyParameters => 0
  | runController => 1
  | idle => 2
  | exit => 3

def ofCode? : UInt32 → Option Mode
  | 0 => some applyParameters
  | 1 => some runController
  | 2 => some idle
  | 3 => some exit
  | _ => none

@[simp] theorem ofCode?_code (m : Mode) : ofCode? m.code = some m := by cases m <;> rfl

def label : Mode → String
  | applyParameters => "apply-control-parameters"
  | runController => "run-controller"
  | idle => "idle"
  | exit => "exit"

end Mode

end Lockstep
