import Lockstep.Number.Shortest

/-! Single and double precision numbers kept as their encodings.

Keeping the bits makes equality decidable and leaves the payload of a NaN
alone. Sign, order, widening and narrowing are read off the encoding; sums,
products and quotients are those of the hardware.
-/

set_option autoImplicit false

namespace Lockstep

open Number

structure Single where
  bits : UInt32
  deriving DecidableEq, Inhabited, Repr

structure Double where
  bits : UInt64
  deriving DecidableEq, Inhabited, Repr

namespace Single

def zero : Single := ⟨0⟩

def one : Single := ⟨0x3f800000⟩

def datum (x : Single) : Datum := Format.single.decode x.bits.toNat

def ofNatBits (n : Nat) : Single := ⟨UInt32.ofNat n⟩

def isNaN (x : Single) : Bool := 0x7f800000 < x.bits &&& 0x7fffffff

def isFinite (x : Single) : Bool := x.bits &&& 0x7fffffff < 0x7f800000

/-- The same number in double precision; no rounding takes place. -/
def widen (x : Single) : Double := ⟨UInt64.ofNat (Format.double.encode x.datum)⟩

def hardware (x : Single) : Float32 := Float32.ofBits x.bits

def ofHardware (x : Float32) : Single := ⟨x.toBits⟩

instance : Add Single := ⟨fun x y => ofHardware (x.hardware + y.hardware)⟩
instance : Sub Single := ⟨fun x y => ofHardware (x.hardware - y.hardware)⟩
instance : Mul Single := ⟨fun x y => ofHardware (x.hardware * y.hardware)⟩
instance : Div Single := ⟨fun x y => ofHardware (x.hardware / y.hardware)⟩

/-- Place on the number line: negative for a set sign bit, zero for both zeros. -/
def rank (x : Single) : Int :=
  if x.bits.toNat < 0x80000000 then (x.bits.toNat : Int)
  else -((x.bits.toNat - 0x80000000 : Nat) : Int)

def lt (x y : Single) : Bool := !x.isNaN && !y.isNaN && decide (x.rank < y.rank)

def ofInt (i : Int) : Single := ofNatBits (Format.single.round (i < 0) i.natAbs 1)

def ofDecimal (negative : Bool) (digits : Nat) (exponent : Int) : Single :=
  ofNatBits (Format.single.roundDecimal negative digits exponent)

instance : OfScientific Single :=
  ⟨fun digits below places => ofDecimal false digits (if below then -(places : Int) else places)⟩

/-- Shortest text that reads back to the same number. -/
def text (x : Single) : String := Format.single.shortest x.datum

instance : ToString Single := ⟨text⟩

/-- The smaller of two numbers, passing over a NaN. -/
def minimum (x y : Single) : Single :=
  if x.isNaN then y else if y.isNaN then x else if y.lt x then y else x

end Single

namespace Double

def zero : Double := ⟨0⟩

def datum (x : Double) : Datum := Format.double.decode x.bits.toNat

def ofNatBits (n : Nat) : Double := ⟨UInt64.ofNat n⟩

def isNaN (x : Double) : Bool := 0x7ff0000000000000 < x.bits &&& 0x7fffffffffffffff

def narrow (x : Double) : Single := Single.ofNatBits (Format.single.encode x.datum)

def hardware (x : Double) : Float := Float.ofBits x.bits

def ofHardware (x : Float) : Double := ⟨x.toBits⟩

instance : Add Double := ⟨fun x y => ofHardware (x.hardware + y.hardware)⟩
instance : Sub Double := ⟨fun x y => ofHardware (x.hardware - y.hardware)⟩
instance : Mul Double := ⟨fun x y => ofHardware (x.hardware * y.hardware)⟩
instance : Div Double := ⟨fun x y => ofHardware (x.hardware / y.hardware)⟩

/-- Sign reversal flips the sign bit, also of zeros and NaNs. -/
instance : Neg Double := ⟨fun x => ⟨x.bits ^^^ 0x8000000000000000⟩⟩

def rank (x : Double) : Int :=
  if x.bits.toNat < 0x8000000000000000 then (x.bits.toNat : Int)
  else -((x.bits.toNat - 0x8000000000000000 : Nat) : Int)

def lt (x y : Double) : Bool := !x.isNaN && !y.isNaN && decide (x.rank < y.rank)

def ofInt (i : Int) : Double := ofNatBits (Format.double.round (i < 0) i.natAbs 1)

def ofDecimal (negative : Bool) (digits : Nat) (exponent : Int) : Double :=
  ofNatBits (Format.double.roundDecimal negative digits exponent)

instance : OfScientific Double :=
  ⟨fun digits below places => ofDecimal false digits (if below then -(places : Int) else places)⟩

/-- Keep a number between two bounds; a NaN stays as it is. -/
def clamp (x low high : Double) : Double :=
  if x.lt low then low else if high.lt x then high else x

def text (x : Double) : String := Format.double.shortest x.datum

def literal (x : Double) : String := Format.double.literal x.datum

instance : ToString Double := ⟨text⟩

end Double

end Lockstep
