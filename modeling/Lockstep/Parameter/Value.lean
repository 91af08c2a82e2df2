import Lockstep.Number.Scalar
import Lockstep.Parameter.Error
import Lockstep.Wire.Little

/-! Values of control parameters and their form on the wire. -/

set_option autoImplicit false

namespace Lockstep.Parameter

def valueCapacity : Nat := 24

/-- A value in its fixed number of bytes; the kind travels beside it. -/
abbrev WireValue := Vector UInt8 valueCapacity

inductive Value where
  | float (x : Single)
  | double (x : Double)
  | s64 (i : Int64)
  | vec3Float (v : Vector Single 3)
  | vec3Double (v : Vector Double 3)
  deriving DecidableEq, Repr

namespace Value

def kind : Value → Kind
  | float _ => .float
  | double _ => .double
  | s64 _ => .s64
  | vec3Float _ => .vec3Float
  | vec3Double _ => .vec3Double

/-- The value that a parameter has before it is first written. -/
def zero : Kind → Value
  | .float => float .zero
  | .double => double .zero
  | .s64 => s64 0
  | .vec3Float => vec3Float (.replicate 3 .zero)
  | .vec3Double => vec3Double (.replicate 3 .zero)

@[simp] theorem kind_zero (k : Kind) : (zero k).kind = k := by cases k <;> rfl

def bytes : Value → List UInt8
  | float x => Wire.littleBytes 4 x.bits.toNat
  | double x => Wire.littleBytes 8 x.bits.toNat
  | s64 i => Wire.littleBytes 8 i.toUInt64.toNat
  | vec3Float v => v.toList.flatMap fun x => Wire.littleBytes 4 x.bits.toNat
  | vec3Double v => v.toList.flatMap fun x => Wire.littleBytes 8 x.bits.toNat

def toWire (v : Value) : WireValue := Wire.padded valueCapacity v.bytes

def singleAt (wire : WireValue) (offset : Nat) : Single :=
  .ofNatBits (Wire.littleValue ((wire.toList.drop offset).take 4))

def wordAt (wire : WireValue) (offset : Nat) : UInt64 :=
  UInt64.ofNat (Wire.littleValue ((wire.toList.drop offset).take 8))

/-- Read a value of a kind; bytes beyond the kind's width do not count. -/
def ofWire (k : Kind) (wire : WireValue) : Value :=
  match k with
  | .float => float (singleAt wire 0)
  | .double => double ⟨wordAt wire 0⟩
  | .s64 => s64 (wordAt wire 0).toInt64
  | .vec3Float => vec3Float #v[singleAt wire 0, singleAt wire 4, singleAt wire 8]
  | .vec3Double => vec3Double #v[⟨wordAt wire 0⟩, ⟨wordAt wire 8⟩, ⟨wordAt wire 16⟩]

@[simp] theorem kind_ofWire (k : Kind) (wire : WireValue) : (ofWire k wire).kind = k := by
  cases k <;> rfl

def ofTagged (tag : UInt32) (wire : WireValue) : Except Error Value :=
  match Kind.ofCode? tag with
  | some k => .ok (ofWire k wire)
  | none => .error (.unknownKind tag)

def tripleText (texts : List String) : String := "[" ++ String.intercalate ", " texts ++ "]"

def text : Value → String
  | float x => x.text
  | double x => x.text
  | s64 i => toString i.toInt
  | vec3Float v => tripleText (v.toList.map Single.text)
  | vec3Double v => tripleText (v.toList.map Double.text)

end Value

end Lockstep.Parameter
