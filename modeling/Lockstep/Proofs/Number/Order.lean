import Lockstep.Proofs.Number.Exact

/-! Order of numbers, on their encodings.

The sign of a number can be told from what its encoding stands for, so that a positive single
is a positive double. Sign reversal turns the order round, and a number that is kept
between two bounds in order is a NaN or lies between them.
-/

set_option autoImplicit false

namespace Lockstep

open Number

def Number.Datum.Positive : Datum → Prop
  | .nan => False
  | .infinite negative => negative = false
  | .finite negative m _ => negative = false ∧ 0 < m

theorem Number.Datum.Finer.positive {d d' : Datum} (finer : d.Finer d') (positive : d.Positive) :
    d'.Positive := by
  cases finer with
  | nan => exact positive
  | infinite negative => exact positive
  | finite negative m q places =>
    obtain ⟨sign, some⟩ := positive
    exact ⟨sign, Nat.mul_pos some (Nat.two_pow_pos places)⟩

/-- Encodings of positive numbers are those from the first after zero up to infinity. -/
theorem Number.Format.positive_decode_iff (f : Format) (exponent : 0 < f.exponentBits) {n : Nat}
    (inside : n < 2 * f.signBit) : (f.decode n).Positive ↔ 0 < n ∧ n ≤ f.infinity := by
  have beyond := f.infinity_lt
  by_cases sign : f.signBit ≤ n
  · -- No reading of a negative number is positive.
    have split : n = f.withSign true (n - f.signBit) := (Nat.add_sub_of_le sign).symm
    have never : ¬ (f.decode n).Positive := by
      rw [split, f.decode_withSign true (by omega)]
      split
      · split
        · simp [Datum.Positive]
        · simp [Datum.Positive]
      · split
        · simp [Datum.Positive]
        · simp [Datum.Positive]
    exact iff_of_false never (by omega)
  · have below : n < f.signBit := Nat.not_le.mp sign
    rw [show f.decode n = f.decode (f.withSign false n) from rfl, f.decode_withSign false below]
    have width : 0 < 2 ^ f.fractionBits := Nat.two_pow_pos _
    have parts := Nat.div_add_mod n (2 ^ f.fractionBits)
    have fraction := Nat.mod_lt n width
    have field_le : n / 2 ^ f.fractionBits ≤ f.topExponent := by
      rw [f.signBit_eq] at below
      exact Nat.le_sub_one_of_lt (Nat.div_lt_of_lt_mul (by rwa [Nat.mul_comm]))
    have top_pos : 0 < f.topExponent := Nat.sub_pos_of_lt (Nat.one_lt_two_pow exponent.ne')
    have infinity_eq : f.infinity = 2 ^ f.fractionBits * f.topExponent := Nat.mul_comm ..
    generalize n / 2 ^ f.fractionBits = field at *
    generalize n % 2 ^ f.fractionBits = rest at *
    split
    next top =>
      rw [top, ← infinity_eq] at parts
      have some : 0 < f.infinity := infinity_eq ▸ Nat.mul_pos width top_pos
      split
      next none => exact iff_of_true rfl (by omega)
      next => exact iff_of_false id (by omega)
    next other =>
      -- One more in the exponent field is still at most infinity.
      have bound : 2 ^ f.fractionBits * field + 2 ^ f.fractionBits ≤ f.infinity := by
        rw [infinity_eq, ← Nat.mul_succ]
        exact Nat.mul_le_mul_left _ (Nat.lt_of_le_of_ne field_le other)
      split
      next none =>
        rw [none, Nat.mul_zero, Nat.zero_add] at parts
        simp only [Datum.Positive, true_and]
        omega
      next some =>
        have first : 2 ^ f.fractionBits ≤ 2 ^ f.fractionBits * field :=
          Nat.le_mul_of_pos_right _ (Nat.pos_of_ne_zero some)
        simp only [Datum.Positive, true_and]
        omega

namespace Number.Format

variable (f : Format) {m n : Nat}

def isNaN (n : Nat) : Bool := f.infinity < n % f.signBit

def rank (n : Nat) : Int := if n < f.signBit then n else -((n - f.signBit : Nat) : Int)

/-- Order of the numbers that encodings stand for; nothing compares with a NaN. -/
def lt (m n : Nat) : Bool := !f.isNaN m && !f.isNaN n && decide (f.rank m < f.rank n)

/-- An encoding with its sign bit turned over. -/
def flip (n : Nat) : Nat := if n < f.signBit then n + f.signBit else n - f.signBit

theorem lt_iff : f.lt m n = true ↔
    m % f.signBit ≤ f.infinity ∧ n % f.signBit ≤ f.infinity ∧ f.rank m < f.rank n := by
  simp [lt, isNaN, and_assoc]

theorem zero_lt_iff (exponent : 0 < f.exponentBits) (inside : n < 2 * f.signBit) :
    f.lt 0 n = true ↔ (f.decode n).Positive := by
  have beyond := f.infinity_lt
  rw [f.positive_decode_iff exponent inside, f.lt_iff, Nat.zero_mod, rank, if_pos (by omega), rank]
  split
  next below =>
    rw [Nat.mod_eq_of_lt below]
    omega
  next => exact iff_of_false (by omega) (by omega)

theorem isNaN_flip (n : Nat) : f.isNaN (f.flip n) = f.isNaN n := by
  unfold isNaN flip
  split
  next => rw [Nat.add_mod_right]
  next above => rw [Nat.mod_eq_sub_mod (Nat.not_lt.mp above)]

theorem rank_flip (inside : n < 2 * f.signBit) : f.rank (f.flip n) = -f.rank n := by
  unfold rank flip
  split
  · rw [if_neg (by omega)]
    omega
  · rw [if_pos (by omega)]
    omega

end Number.Format

namespace Single

theorem isNaN_eq (x : Single) : x.isNaN = Format.single.isNaN x.bits.toNat := by
  have masked : (x.bits &&& 0x7fffffff).toNat = x.bits.toNat % 2 ^ 31 :=
    (UInt32.toNat_and _ _).trans (Nat.and_two_pow_sub_one_eq_mod _ 31)
  exact decide_eq_decide.mpr (by rw [UInt32.lt_iff_toNat_lt, masked]; rfl)

theorem zero_lt_iff (x : Single) : zero.lt x = true ↔ x.datum.Positive := by
  rw [lt, isNaN_eq, isNaN_eq]
  exact Format.single.zero_lt_iff (by decide) x.bits.toNat_lt

end Single

namespace Double

variable {x y low high : Double}

def le (x y : Double) : Bool := !x.isNaN && !y.isNaN && decide (x.rank ≤ y.rank)

theorem lt_iff : x.lt y = true ↔ x.isNaN = false ∧ y.isNaN = false ∧ x.rank < y.rank := by
  simp [lt, and_assoc]

theorem le_iff : x.le y = true ↔ x.isNaN = false ∧ y.isNaN = false ∧ x.rank ≤ y.rank := by
  simp [le, and_assoc]

theorem isNaN_eq (x : Double) : x.isNaN = Format.double.isNaN x.bits.toNat := by
  have masked : (x.bits &&& 0x7fffffffffffffff).toNat = x.bits.toNat % 2 ^ 63 :=
    (UInt64.toNat_and _ _).trans (Nat.and_two_pow_sub_one_eq_mod _ 63)
  exact decide_eq_decide.mpr (by rw [UInt64.lt_iff_toNat_lt, masked]; rfl)

theorem zero_lt_iff (x : Double) : zero.lt x = true ↔ x.datum.Positive := by
  rw [lt, isNaN_eq, isNaN_eq]
  exact Format.double.zero_lt_iff (by decide) x.bits.toNat_lt

theorem toNat_neg (x : Double) : (-x).bits.toNat = Format.double.flip x.bits.toNat := by
  change (x.bits ^^^ 0x8000000000000000).toNat =
    if x.bits.toNat < 2 ^ 63 then x.bits.toNat + 2 ^ 63 else x.bits.toNat - 2 ^ 63
  have inside : x.bits.toNat < 2 ^ 64 := x.bits.toNat_lt
  -- Only the topmost bit turns, all below it stay.
  have top : (x.bits.toNat ^^^ 2 ^ 63) / 2 ^ 63 = x.bits.toNat / 2 ^ 63 ^^^ 1 :=
    Nat.xor_div_two_pow
  have rest : (x.bits.toNat ^^^ 2 ^ 63) % 2 ^ 63 = x.bits.toNat % 2 ^ 63 := by
    rw [Nat.xor_mod_two_pow, Nat.mod_self, Nat.xor_zero]
  rw [UInt64.toNat_xor]
  change x.bits.toNat ^^^ 2 ^ 63 = _
  split
  next clear =>
    rw [Nat.div_eq_of_lt clear, Nat.zero_xor] at top
    omega
  next set =>
    rw [show x.bits.toNat / 2 ^ 63 = 1 by omega, Nat.xor_self] at top
    omega

theorem isNaN_neg (x : Double) : (-x).isNaN = x.isNaN := by
  rw [isNaN_eq, toNat_neg, Format.isNaN_flip, isNaN_eq]

theorem rank_neg (x : Double) : (-x).rank = -x.rank := by
  change Format.double.rank (-x).bits.toNat = -Format.double.rank x.bits.toNat
  rw [toNat_neg, Format.double.rank_flip x.bits.toNat_lt]

/-- Keep a number between two bounds that have to be in order, by one bound after the other. -/
def clampInPlace (x low high : Double) : Option Double :=
  if low.le high then
    let raised := if x.lt low then low else x
    some (if high.lt raised then high else raised)
  else none

theorem clampInPlace_eq (bounds : low.le high = true) (x : Double) :
    x.clampInPlace low high = some (x.clamp low high) := by
  rw [clampInPlace, if_pos bounds, clamp]
  split
  next =>
    have under : ¬ high.lt low = true := by
      rw [lt_iff]
      rw [le_iff] at bounds
      omega
    exact congrArg some (if_neg under)
  next => rfl

/-- A number that was kept between two bounds. -/
structure Between (x low high kept : Double) : Prop where
  isNaN : kept.isNaN = x.isNaN
  bounded : x.isNaN = false → low.le kept = true ∧ kept.le high = true
  inside : low.le x = true → x.le high = true → kept = x

theorem clamp_between (bounds : low.le high = true) (x : Double) :
    x.Between low high (x.clamp low high) := by
  obtain ⟨lowIs, highIs, ordered⟩ := le_iff.mp bounds
  unfold clamp
  split
  next below =>
    obtain ⟨number, -, less⟩ := lt_iff.mp below
    constructor
    case isNaN => rw [lowIs, number]
    case bounded => exact fun _ => ⟨le_iff.mpr ⟨lowIs, lowIs, Int.le_refl _⟩, bounds⟩
    case inside => exact fun within _ => absurd (le_iff.mp within).2.2 (Int.not_le.mpr less)
  next notBelow =>
    split
    next above =>
      obtain ⟨-, number, less⟩ := lt_iff.mp above
      constructor
      case isNaN => rw [highIs, number]
      case bounded => exact fun _ => ⟨bounds, le_iff.mpr ⟨highIs, highIs, Int.le_refl _⟩⟩
      case inside => exact fun _ within => absurd (le_iff.mp within).2.2 (Int.not_le.mpr less)
    next notAbove =>
      constructor
      case isNaN => rfl
      case bounded =>
        intro number
        rw [lt_iff] at notBelow notAbove
        rw [le_iff, le_iff]
        refine ⟨⟨lowIs, number, ?_⟩, number, highIs, ?_⟩
        · exact Int.not_lt.mp fun less => notBelow ⟨number, lowIs, less⟩
        · exact Int.not_lt.mp fun less => notAbove ⟨highIs, number, less⟩
      case inside => exact fun _ _ => rfl

end Double

end Lockstep
