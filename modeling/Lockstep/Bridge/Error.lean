import Lockstep.Channel.Error
import Lockstep.Controller.Error
import Lockstep.Parameter.Table

/-! Why a robot program cannot go on. -/

set_option autoImplicit false

namespace Lockstep.Bridge

inductive Error where
  | channel (cause : Channel.Error)
  | parameter (cause : Parameter.Error)
  | table (cause : Parameter.Table.Refusal)
  -- The simulator declares another robot than the one the program is for.
  | robotMismatch (expected : Robot) (declared : UInt32)
  | unknownMode (code : UInt32)
  -- More than one request came since the last response.
  | tooManyPending (request response : UInt64)
  | controller (cause : Controller.Error)
  deriving DecidableEq, Repr

def declaredLabel (declared : UInt32) : String :=
  match Robot.ofCode? declared with
  | some robot => robot.label
  | none => s!"unknown robot {declared}"

def Error.message : Error → String
  | channel cause => cause.message
  | parameter cause => cause.message
  | table cause => cause.message
  | robotMismatch expected declared =>
    let found := declaredLabel declared
    s!"robot mismatch: launched as {expected.label}, simulator declared {found}"
  | unknownMode code => s!"unknown simulator mode {code}"
  | tooManyPending request response =>
    s!"too many control parameter requests pending: request {request}, last response {response}"
  | controller cause => s!"controller: {cause.message}"

end Lockstep.Bridge
