/-! Binary floating-point formats over exact integers.

A format fixes the widths of the exponent and the fraction. Encodings are read
into sign, significand and exponent, and a quotient of natural numbers is
rounded to the nearest encoding, a tie going to the even one.
-/

set_option autoImplicit false

namespace Lockstep.Number

structure Format where
  exponentBits : Nat
  fractionBits : Nat
  deriving DecidableEq, Repr

namespace Format

def single : Format := ⟨8, 23⟩

def double : Format := ⟨11, 52⟩

def topExponent (f : Format) : Nat := Nat.pow 2 f.exponentBits - 1

/-- Power of two that one unit of the smallest subnormal stands for. -/
def minExponent (f : Format) : Int :=
  2 - (Nat.pow 2 (f.exponentBits - 1) : Nat) - f.fractionBits

def infinity (f : Format) : Nat := f.topExponent * Nat.pow 2 f.fractionBits

def signBit (f : Format) : Nat := Nat.pow 2 (f.exponentBits + f.fractionBits)

end Format

/-- What an encoding stands for; `finite s m q` is `m · 2 ^ q`, negated if `s`. -/
inductive Datum where
  | nan
  | infinite (negative : Bool)
  | finite (negative : Bool) (significand : Nat) (exponent : Int)
  deriving DecidableEq, Repr

namespace Format

def decode (f : Format) (bits : Nat) : Datum :=
  let negative := f.signBit ≤ bits
  let magnitude := bits % f.signBit
  let field := magnitude / Nat.pow 2 f.fractionBits
  let fraction := magnitude % Nat.pow 2 f.fractionBits
  if field = f.topExponent then
    if fraction = 0 then .infinite negative else .nan
  else if field = 0 then .finite negative fraction f.minExponent
  else .finite negative (Nat.pow 2 f.fractionBits + fraction) (f.minExponent + (field - 1 : Nat))

def withSign (f : Format) (negative : Bool) (magnitude : Nat) : Nat :=
  if negative then f.signBit + magnitude else magnitude

/-- Nearest integer to a quotient; a tie goes to the even one. -/
def roundQuotient (num den : Nat) : Nat :=
  let q := num / den
  let twice := 2 * (num % den)
  if den < twice || (twice == den && q % 2 == 1) then q + 1 else q

/-- `num / den` scaled by `2 ^ -e`, as a new quotient. -/
def scale (num den : Nat) (e : Int) : Nat × Nat :=
  if 0 ≤ e then (num, den * Nat.pow 2 e.toNat) else (num * Nat.pow 2 (-e).toNat, den)

/-- Exponent of the power of two at or just below a positive quotient. -/
def floorLog2 (num den : Nat) : Int :=
  let e : Int := (Nat.log2 num : Int) - (Nat.log2 den : Int)
  let (n, d) := scale num den e
  if n < d then e - 1 else e

/-- Magnitude bits nearest to `num / den`, infinity from the overflow threshold on.

The significand is counted in units of `2 ^ q`; a carry out of the fraction runs
into the exponent field, which is what rounding up to the next binade means. -/
def roundMagnitude (f : Format) (num den : Nat) : Nat :=
  if num = 0 then 0
  else
    let q := max f.minExponent (floorLog2 num den - f.fractionBits)
    let (n, d) := scale num den q
    min f.infinity ((q - f.minExponent).toNat * Nat.pow 2 f.fractionBits + roundQuotient n d)

def round (f : Format) (negative : Bool) (num den : Nat) : Nat :=
  f.withSign negative (f.roundMagnitude num den)

def roundBinary (f : Format) (negative : Bool) (significand : Nat) (exponent : Int) : Nat :=
  let (n, d) := scale significand 1 (-exponent)
  f.round negative n d

/-- Encoding nearest to `± digits · 10 ^ exponent`.

Beyond four hundred decimal places on either side of the point the result is
infinity or zero in every format used here, so the power is not computed. -/
def roundDecimal (f : Format) (negative : Bool) (digits : Nat) (exponent : Int) : Nat :=
  let places : Int := (Nat.log2 digits : Int) * 30103 / 100000 + exponent
  if digits = 0 || places < -400 then f.withSign negative 0
  else if 400 < places then f.withSign negative f.infinity
  else if 0 ≤ exponent then f.round negative (digits * Nat.pow 10 exponent.toNat) 1
  else f.round negative digits (Nat.pow 10 (-exponent).toNat)

/-- The one NaN that operations of this library produce. -/
def quietNaN (f : Format) : Nat := f.infinity + Nat.pow 2 (f.fractionBits - 1)

def encode (f : Format) : Datum → Nat
  | .nan => f.quietNaN
  | .infinite negative => f.withSign negative f.infinity
  | .finite negative significand exponent => f.roundBinary negative significand exponent

end Format

end Lockstep.Number
