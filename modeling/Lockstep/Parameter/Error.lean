import Lockstep.Config.Error
import Lockstep.Parameter.Kind
import Lockstep.Text.Escape
import Lockstep.Text.Utf8

/-! What can be wrong with the tag, the name, the value or the file of a parameter. -/

set_option autoImplicit false

namespace Lockstep.Parameter

/-- Bytes that a name takes on the wire, with the NUL that ends it. -/
def nameCapacity : Nat := 64

def maxNameLength : Nat := nameCapacity - 1

inductive NameFault where
  | empty
  | containsNul (name : String)
  | unterminated
  | malformed (fault : Text.Utf8.Fault)
  deriving DecidableEq, Repr

def NameFault.message : NameFault → String
  | empty => "empty name"
  | containsNul name => s!"'{Text.escaped name}' contains a NUL byte"
  | unterminated => "name is not NUL-terminated"
  | malformed fault => s!"name is not UTF-8: {fault.message}"

inductive Error where
  | unknownKind (tag : UInt32)
  | unknownRequest (tag : UInt32)
  | nameTooLong (name : String)
  | invalidName (fault : NameFault)
  | valueMismatch (name : String) (kind : Kind)
  | file (cause : Config.Error)
  deriving DecidableEq, Repr

def Error.message : Error → String
  | unknownKind tag => s!"Unknown parameter kind tag {tag}"
  | unknownRequest tag => s!"Unknown request kind tag {tag}"
  | nameTooLong name => s!"Parameter name '{name}' is {name.utf8ByteSize} bytes (max {maxNameLength})"
  | invalidName fault => s!"Invalid parameter name: {fault.message}"
  | valueMismatch name kind => s!"Parameter '{name}': value does not match kind {kind.name}"
  | file cause => s!"Parameter file: {cause.message}"

end Lockstep.Parameter
