import Lockstep.Toml.Value

/-! Values written without quotes or brackets: numbers, truth values, dates and times. -/

set_option autoImplicit false

namespace Lockstep.Toml

/-- Digits with single underscores between them, taken out. -/
def ungroup (digit : Char → Bool) : List Char → Option (List Char)
  | [] => none
  | [c] => if digit c then some [c] else none
  | c :: '_' :: rest => if digit c then (ungroup digit rest).map (c :: ·) else none
  | c :: rest => if digit c then (ungroup digit rest).map (c :: ·) else none

def isDecimal (c : Char) : Bool := '0' ≤ c && c ≤ '9'

def isHexadecimal (c : Char) : Bool :=
  isDecimal c || ('a' ≤ c && c ≤ 'f') || ('A' ≤ c && c ≤ 'F')

def digitValue (c : Char) : Nat :=
  if isDecimal c then c.toNat - '0'.toNat
  else if 'a' ≤ c then c.toNat - 'a'.toNat + 10
  else c.toNat - 'A'.toNat + 10

def ofDigits (base : Nat) (digits : List Char) : Nat :=
  digits.foldl (fun n c => n * base + digitValue c) 0

/-- An integer has to fit into 64 bits with a sign. -/
def bounded (i : Int) : Option Value :=
  if -0x8000000000000000 ≤ i && i < 0x8000000000000000 then some (.integer i) else none

/-- A sign, which may be absent; true for minus. -/
def sign : List Char → Bool × List Char
  | '-' :: rest => (true, rest)
  | '+' :: rest => (false, rest)
  | rest => (false, rest)

/-- Decimal digits of a whole number: no zero in front of others. -/
def wholeDigits (cs : List Char) : Option (List Char) :=
  match ungroup isDecimal cs with
  | some ('0' :: _ :: _) => none
  | digits => digits

def prefixedInteger? (base : Nat) (digit : Char → Bool) (cs : List Char) : Option Value := do
  bounded (ofDigits base (← ungroup digit cs))

def decimalInteger? (cs : List Char) : Option Value := do
  let (negative, cs) := sign cs
  let n : Int := ofDigits 10 (← wholeDigits cs)
  bounded (if negative then -n else n)

def exponent? (cs : List Char) : Option Int := do
  let (negative, cs) := sign cs
  let n : Int := ofDigits 10 (← ungroup isDecimal cs)
  return if negative then -n else n

def isExponentMark (c : Char) : Bool := c == 'e' || c == 'E'

/-- A decimal fraction, with a point or an exponent or both. One that is too
large for a double is refused. -/
def fraction? (cs : List Char) : Option Value := do
  let (negative, cs) := sign cs
  let mantissa := cs.takeWhile (!isExponentMark ·)
  let tail := cs.drop mantissa.length
  let whole ← wholeDigits (mantissa.takeWhile (· != '.'))
  let places ← match mantissa.dropWhile (· != '.') with
    | [] => if tail.isEmpty then none else some []
    | _ :: places => ungroup isDecimal places
  let exponent ← match tail with
    | [] => some 0
    | _ :: rest => exponent? rest
  let x := Double.ofDecimal negative (ofDigits 10 (whole ++ places)) (exponent - places.length)
  match x.datum with
  | .finite _ _ _ => some (.float x)
  | _ => none

def twoDigits? (low high : Nat) (a b : Char) : Option Nat :=
  let n := ofDigits 10 [a, b]
  if isDecimal a && isDecimal b && low ≤ n && n ≤ high then some n else none

def daysInMonth (year month : Nat) : Nat :=
  if month = 2 then
    if year % 4 = 0 && (year % 100 != 0 || year % 400 = 0) then 29 else 28
  else if month = 4 || month = 6 || month = 9 || month = 11 then 30
  else 31

def date? : List Char → Option (List Char)
  | y₁ :: y₂ :: y₃ :: y₄ :: '-' :: m₁ :: m₂ :: '-' :: d₁ :: d₂ :: rest => do
    guard ([y₁, y₂, y₃, y₄].all isDecimal)
    let month ← twoDigits? 1 12 m₁ m₂
    let _ ← twoDigits? 1 (daysInMonth (ofDigits 10 [y₁, y₂, y₃, y₄]) month) d₁ d₂
    return rest
  | _ => none

def time? : List Char → Option (List Char)
  | h₁ :: h₂ :: ':' :: m₁ :: m₂ :: ':' :: s₁ :: s₂ :: rest => do
    let _ ← twoDigits? 0 23 h₁ h₂
    let _ ← twoDigits? 0 59 m₁ m₂
    let _ ← twoDigits? 0 60 s₁ s₂
    match rest with
    | '.' :: places =>
      guard (!(places.takeWhile isDecimal).isEmpty)
      return places.dropWhile isDecimal
    | rest => return rest
  | _ => none

def isOffset : List Char → Bool
  | [] => true
  | ['Z'] | ['z'] => true
  | [s, h₁, h₂, ':', m₁, m₂] =>
    (s == '+' || s == '-') && (twoDigits? 0 23 h₁ h₂).isSome && (twoDigits? 0 59 m₁ m₂).isSome
  | _ => false

def isMoment (cs : List Char) : Bool :=
  match date? cs with
  | some [] => true
  | some (t :: rest) =>
    (t == 'T' || t == 't' || t == ' ') && match time? rest with
      | some offset => isOffset offset
      | none => false
  | none => time? cs == some []

def atom? (cs : List Char) : Option Value :=
  match String.ofList cs with
  | "true" => some (.boolean true)
  | "false" => some (.boolean false)
  | "inf" | "+inf" => some (.float ⟨0x7ff0000000000000⟩)
  | "-inf" => some (.float ⟨0xfff0000000000000⟩)
  | "nan" | "+nan" | "-nan" => some (.float ⟨0x7ff8000000000000⟩)
  | _ =>
    match cs with
    | '0' :: 'x' :: rest => prefixedInteger? 16 isHexadecimal rest
    | '0' :: 'o' :: rest => prefixedInteger? 8 (fun c => '0' ≤ c && c ≤ '7') rest
    | '0' :: 'b' :: rest => prefixedInteger? 2 (fun c => c == '0' || c == '1') rest
    | _ => decimalInteger? cs <|> fraction? cs <|> if isMoment cs then some .moment else none

end Lockstep.Toml
