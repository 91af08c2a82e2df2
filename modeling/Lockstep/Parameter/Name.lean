import Lockstep.Parameter.Error
import Lockstep.Wire.Little

/-! Parameter names and their form on the wire.

A name is a non-empty text without NUL of at most `maxNameLength` bytes. On the
wire it is followed by zeros; what stands behind the first zero is not read.
-/

set_option autoImplicit false

namespace Lockstep.Parameter

abbrev WireName := Vector UInt8 nameCapacity

def checkName (name : String) : Except Error Unit :=
  if name.isEmpty then .error (.invalidName .empty)
  else if '\x00' ∈ name.toList then .error (.invalidName (.containsNul name))
  else if maxNameLength < name.utf8ByteSize then .error (.nameTooLong name)
  else .ok ()

def encodeName (name : String) : Except Error WireName := do
  checkName name
  return Wire.padded nameCapacity (Text.Utf8.encode name)

/-- The name in front of the first zero byte. -/
def decodeName (wire : WireName) : Except Error String := do
  if !wire.toList.contains 0 then throw (.invalidName .unterminated)
  let name ← (Text.Utf8.decode (wire.toList.takeWhile (· != 0))).mapError
    fun fault => .invalidName (.malformed fault)
  checkName name
  return name

end Lockstep.Parameter
