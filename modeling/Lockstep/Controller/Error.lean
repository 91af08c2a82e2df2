import Lockstep.Parameter.Kind
import Lockstep.Robot

/-! Why a controller cannot run. -/

set_option autoImplicit false

namespace Lockstep.Controller

inductive Quantity where
  | position
  | velocity
  deriving DecidableEq, Repr

def Quantity.label : Quantity → String
  | position => "joint position"
  | velocity => "joint velocity"

inductive Error where
  -- A parameter is not in its table, or not of the kind that is needed.
  | parameter (name : String) (expected : Parameter.Kind)
  -- A measurement is infinite or no number.
  | nonFinite (what : Quantity) (leg : Leg)
  deriving DecidableEq, Repr

def Error.message : Error → String
  | parameter name expected => s!"parameter '{name}' is missing or not a {expected.name}"
  | nonFinite what leg => s!"non-finite {what.label} on leg {leg.val}"

end Lockstep.Controller
