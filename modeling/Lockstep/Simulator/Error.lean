import Lockstep.Channel.Error
import Lockstep.Parameter.Error

/-! Why a simulator cannot go on. -/

set_option autoImplicit false

namespace Lockstep.Simulator

open Parameter (RequestKind)

inductive Violation where
  | number (response request : UInt64)
  | subject (echoed : String) (kind : RequestKind) (name : String)
  deriving DecidableEq, Repr

def Violation.message : Violation → String
  | number response request => s!"response number {response} for request {request}"
  | subject echoed kind name => s!"response for '{echoed}' does not match {kind.label} '{name}'"

inductive Error where
  | channel (cause : Channel.Error)
  | parameter (cause : Parameter.Error)
  | config (cause : Config.Error)
  -- The robot did not give its turn back in time.
  | robotStalled (published : Option String)
  -- A parameter request was not answered, however long the simulator waited.
  | notAcknowledged (name : String) (number : UInt64) (published : Option String)
  | protocolViolation (violation : Violation)
  deriving DecidableEq, Repr

def publishedSuffix : Option String → String
  | some text => ": " ++ text
  | none => ""

def Error.message : Error → String
  | channel cause => cause.message
  | parameter cause => cause.message
  | config cause => s!"Configuration: {cause.message}"
  | robotStalled published => "robot stopped responding" ++ publishedSuffix published
  | notAcknowledged name number published =>
    s!"robot did not acknowledge parameter '{name}' (request {number})" ++ publishedSuffix published
  | protocolViolation violation => s!"protocol violation: {violation.message}"

end Lockstep.Simulator
