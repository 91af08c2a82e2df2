import Lockstep.Number.Format

/-! Shortest decimal text of a binary encoding.

The text has the fewest digits that round back to the same encoding and, among
those, the nearest to its value. It is always positional, and carries a point
only where there is a fraction.
-/

set_option autoImplicit false

namespace Lockstep.Number

/-- The positive rationals that round to one encoding, over a common denominator. -/
structure Interval where
  low : Nat
  value : Nat
  high : Nat
  den : Nat
  closed : Bool
  deriving Repr

namespace Interval

/-- Interval of `m · 2 ^ q`; below a power of two the spacing halves. -/
def ofFinite (f : Format) (m : Nat) (q : Int) : Interval :=
  let halved := m = Nat.pow 2 f.fractionBits ∧ f.minExponent < q
  let low := if halved then 4 * m - 1 else 4 * m - 2
  let up := if 0 ≤ q then Nat.pow 2 q.toNat else 1
  let den := if 0 ≤ q then 4 else 4 * Nat.pow 2 (-q).toNat
  ⟨low * up, 4 * m * up, (4 * m + 2) * up, den, m % 2 = 0⟩

/-- Whether `n · 10 ^ k` lies in the interval. -/
def holds (i : Interval) (n : Nat) (k : Int) : Bool :=
  let x := if 0 ≤ k then n * Nat.pow 10 k.toNat * i.den else n * i.den
  let unit := if 0 ≤ k then 1 else Nat.pow 10 (-k).toNat
  if i.closed then i.low * unit ≤ x && x ≤ i.high * unit
  else i.low * unit < x && x < i.high * unit

/-- Digits of the value on the grid of step `10 ^ k`: the lower neighbour, and
twice the distance to it compared with the step. -/
def onGrid (i : Interval) (k : Int) : Nat × Ordering :=
  let num := if 0 ≤ k then i.value else i.value * Nat.pow 10 (-k).toNat
  let den := if 0 ≤ k then i.den * Nat.pow 10 k.toNat else i.den
  (num / den, compare (2 * (num % den)) den)

/-- The grid point of step `10 ^ k` to print, if one lies in the interval. A
value halfway between two such points takes the upper one. -/
def pick (i : Interval) (k : Int) : Option Nat :=
  let (below, half) := i.onGrid k
  match i.holds below k && below != 0, i.holds (below + 1) k with
  | true, true => some (if half = .lt then below else below + 1)
  | true, false => some below
  | false, true => some (below + 1)
  | false, false => none

def digitCount (n : Nat) : Nat := (Nat.toDigits 10 n).length

def leading (i : Interval) : Int :=
  if i.den ≤ i.value then (digitCount (i.value / i.den) : Int) - 1
  else
    let e : Int := (digitCount i.value : Int) - (digitCount i.den : Int)
    if i.value * Nat.pow 10 (-e).toNat < i.den then e - 1 else e

/-- First hit on ever finer grids, starting at step `10 ^ k`. -/
def search (i : Interval) : Nat → Int → Nat × Int
  | 0, k => ((i.onGrid k).1, k)
  | fuel + 1, k =>
    match i.pick k with
    | some n => (n, k)
    | none => i.search fuel (k - 1)

end Interval

def trimZeros (digits : List Char) : List Char :=
  (digits.reverse.dropWhile (· == '0')).reverse

def positional (n : Nat) (k : Int) : String :=
  let digits := Nat.toDigits 10 n
  if 0 ≤ k then String.ofList (digits ++ List.replicate k.toNat '0')
  else
    let places := (-k).toNat
    let padded := List.replicate (places + 1 - digits.length) '0' ++ digits
    let whole := padded.take (padded.length - places)
    let fraction := trimZeros (padded.drop (padded.length - places))
    String.ofList (if fraction.isEmpty then whole else whole ++ '.' :: fraction)

/-- Fewest decimal digits of `m · 2 ^ q`, and the exponent of the last of them. -/
def Format.decimal (f : Format) (m : Nat) (q : Int) : Nat × Int :=
  let i := Interval.ofFinite f m q
  i.search (f.fractionBits / 3 + 2) i.leading

def signed (negative : Bool) (magnitude : String) : String :=
  if negative then "-" ++ magnitude else magnitude

def Format.shortest (f : Format) : Datum → String
  | .nan => "NaN"
  | .infinite negative => signed negative "inf"
  | .finite negative m q =>
    if m = 0 then signed negative "0"
    else
      let (n, k) := f.decimal m q
      signed negative (positional n k)

def scientific (n : Nat) (k : Int) : String :=
  match Nat.toDigits 10 n with
  | [] => ""
  | first :: rest =>
    let fraction := trimZeros rest
    let point := if fraction.isEmpty then [] else '.' :: fraction
    String.ofList (first :: point) ++ s!"e{k + rest.length}"

/-- Text that shows a datum to be no integer: there is always a fraction, or an
exponent where the leading digit stands in front of sixteen others or behind
four zeros. -/
def Format.literal (f : Format) : Datum → String
  | .nan => "NaN"
  | .infinite negative => signed negative "inf"
  | .finite negative m q =>
    if m = 0 then signed negative "0.0"
    else
      let (n, k) := f.decimal m q
      let leading := k + (Interval.digitCount n : Int) - 1
      let text := positional n k
      signed negative <|
        if 16 ≤ leading ∨ leading < -4 then scientific n k
        else if text.contains '.' then text
        else text ++ ".0"

end Lockstep.Number
