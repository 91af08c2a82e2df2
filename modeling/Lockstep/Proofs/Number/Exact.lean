import Mathlib.Algebra.Order.Field.Basic
import Mathlib.Algebra.Order.Field.Power
import Mathlib.Data.Rat.Cast.Order
import Mathlib.Tactic.Positivity
import Lockstep.Number.Scalar

/-! Numbers that a format holds as they are.

A significand with no more bits than the fraction, neither too small nor too large, is
encoded without rounding and decoded to itself, shifted to the width of the
format. Every single fits into a double like that, so that widening one keeps its value.
-/

set_option autoImplicit false

namespace Lockstep.Number

namespace Format

/-- The number that a numerator and a denominator stand for. -/
def ratio (p : Nat × Nat) : ℚ := p.1 / p.2

theorem ratio_scale (num den : Nat) (e : Int) :
    ratio (scale num den e) = ratio (num, den) * 2 ^ (-e) := by
  unfold scale ratio
  split
  next up =>
    obtain ⟨k, rfl⟩ := Int.eq_ofNat_of_zero_le up
    simp only [Int.toNat_natCast, Nat.pow_eq, Nat.cast_mul, Nat.cast_pow,
      Nat.cast_ofNat, zpow_neg, zpow_natCast]
    rw [div_mul_eq_div_div, div_eq_mul_inv ((num : ℚ) / den)]
  next down =>
    obtain ⟨k, same⟩ := Int.eq_ofNat_of_zero_le (show 0 ≤ -e by omega)
    simp only [same, Int.toNat_natCast, Nat.pow_eq, Nat.cast_mul,
      Nat.cast_pow, Nat.cast_ofNat, zpow_natCast]
    rw [mul_div_right_comm]

theorem scale_pos (num : Nat) {den : Nat} (pos : 0 < den) (e : Int) :
    0 < (scale num den e).2 := by
  unfold scale
  split
  · exact Nat.mul_pos pos (Nat.two_pow_pos _)
  · exact pos

variable {m : Nat} {q : Int}

theorem log2_mul_two_pow (some : m ≠ 0) (k : Nat) : (m * 2 ^ k).log2 = m.log2 + k := by
  have pos : 0 < 2 ^ k := Nat.two_pow_pos k
  rw [Nat.log2_eq_iff (Nat.mul_ne_zero some pos.ne'), Nat.add_right_comm, Nat.pow_add, Nat.pow_add]
  exact ⟨Nat.mul_le_mul_right _ (Nat.log2_self_le some),
    Nat.mul_lt_mul_of_pos_right Nat.lt_log2_self pos⟩

def quotient (m : Nat) (q : Int) : Nat × Nat := scale m 1 (-q)

theorem ratio_quotient (m : Nat) (q : Int) : ratio (quotient m q) = m * 2 ^ q := by
  rw [quotient, ratio_scale, neg_neg, ratio, Nat.cast_one, div_one]

theorem quotient_pos (m : Nat) (q : Int) : 0 < (quotient m q).2 := scale_pos m Nat.one_pos _

theorem quotient_ne_zero (some : m ≠ 0) (q : Int) : (quotient m q).1 ≠ 0 := by
  unfold quotient scale
  split
  · exact some
  · exact Nat.mul_ne_zero some (Nat.two_pow_pos _).ne'

theorem log2_quotient (some : m ≠ 0) (q : Int) :
    ((quotient m q).1.log2 : Int) - (quotient m q).2.log2 = q + m.log2 := by
  unfold quotient scale
  split
  next up =>
    simp only [Nat.pow_eq, Nat.one_mul, Nat.log2_two_pow]
    omega
  next down =>
    simp only [Nat.pow_eq, log2_mul_two_pow some]
    rw [show Nat.log2 1 = 0 from rfl]
    omega

theorem floorLog2_quotient (some : m ≠ 0) (q : Int) :
    floorLog2 (quotient m q).1 (quotient m q).2 = q + m.log2 := by
  have unfolded (num den : Nat) : floorLog2 num den =
      let e : Int := (num.log2 : Int) - den.log2
      if (scale num den e).1 < (scale num den e).2 then e - 1 else e := rfl
  rw [unfolded, log2_quotient some]
  refine if_neg (Nat.not_lt.mpr ?_)
  have pos := scale_pos (quotient m q).1 (quotient_pos m q) (q + m.log2)
  have value : ratio (scale (quotient m q).1 (quotient m q).2 (q + m.log2)) =
      m / 2 ^ m.log2 := by
    rw [ratio_scale, Prod.mk.eta, ratio_quotient, mul_assoc, ← zpow_add₀ (by norm_num),
      show q + -(q + (m.log2 : Int)) = -(m.log2 : Int) by omega, zpow_neg, zpow_natCast,
      div_eq_mul_inv]
  have least : (1 : ℚ) ≤ m / 2 ^ m.log2 := by
    rw [one_le_div (by positivity)]
    exact_mod_cast Nat.log2_self_le some
  rw [← value, ratio, one_le_div (by exact_mod_cast pos)] at least
  exact_mod_cast least

theorem roundQuotient_mul (c : Nat) {d : Nat} (pos : 0 < d) : roundQuotient (c * d) d = c := by
  have whole : c * d / d = c := Nat.mul_div_cancel c pos
  have rest : c * d % d = 0 := Nat.mul_mod_left c d
  simp [roundQuotient, whole, rest, pos.ne]

theorem roundQuotient_of_ratio {p : Nat × Nat} {c : Nat} (pos : 0 < p.2) (value : ratio p = c) :
    roundQuotient p.1 p.2 = c := by
  rw [ratio, div_eq_iff (by exact_mod_cast pos.ne')] at value
  have whole : p.1 = c * p.2 := by exact_mod_cast value
  rw [whole, roundQuotient_mul c pos]

section

variable (f : Format)

theorem signBit_eq : f.signBit = 2 ^ f.exponentBits * 2 ^ f.fractionBits := Nat.pow_add ..

theorem infinity_lt : f.infinity < f.signBit := by
  rw [signBit_eq, infinity, topExponent]
  have some : 0 < 2 ^ f.exponentBits := Nat.two_pow_pos _
  exact Nat.mul_lt_mul_of_pos_right (Nat.sub_lt some Nat.one_pos) (Nat.two_pow_pos _)

theorem roundMagnitude_le (num den : Nat) : f.roundMagnitude num den ≤ f.infinity := by
  unfold roundMagnitude
  split
  · exact Nat.zero_le _
  · exact Nat.min_le_left _ _

theorem decode_withSign (negative : Bool) {magnitude : Nat} (inside : magnitude < f.signBit) :
    f.decode (f.withSign negative magnitude) =
      if magnitude / 2 ^ f.fractionBits = f.topExponent then
        if magnitude % 2 ^ f.fractionBits = 0 then .infinite negative else .nan
      else if magnitude / 2 ^ f.fractionBits = 0 then
        .finite negative (magnitude % 2 ^ f.fractionBits) f.minExponent
      else .finite negative (2 ^ f.fractionBits + magnitude % 2 ^ f.fractionBits)
        (f.minExponent + (magnitude / 2 ^ f.fractionBits - 1 : Nat)) := by
  have sign : decide (f.signBit ≤ f.withSign negative magnitude) = negative := by
    cases negative with
    | false => exact decide_eq_false (Nat.not_le.mpr inside)
    | true => exact decide_eq_true (Nat.le_add_right _ _)
  have rest : f.withSign negative magnitude % f.signBit = magnitude := by
    cases negative with
    | false => exact Nat.mod_eq_of_lt inside
    | true => exact (Nat.add_mod_left _ _).trans (Nat.mod_eq_of_lt inside)
  simp only [decode, sign, rest, Nat.pow_eq]

/-- Places by which a significand is short of full width. -/
def places (m : Nat) : Nat := f.fractionBits - m.log2

def steps (m : Nat) (q : Int) : Nat := (q + m.log2 - f.fractionBits - f.minExponent).toNat

/-- Whether a number takes the full width of a format and needs no more. -/
structure Holds (m : Nat) (q : Int) : Prop where
  some : m ≠ 0
  narrow : m.log2 ≤ f.fractionBits
  low : f.minExponent + f.fractionBits ≤ q + m.log2
  high : q + m.log2 + 2 ≤ f.minExponent + f.fractionBits + f.topExponent

end

variable {f : Format}

namespace Holds

variable (holds : f.Holds m q)

include holds

theorem exponent : f.minExponent + f.steps m q = q - f.places m := by
  have narrow := holds.narrow
  have low := holds.low
  unfold steps places
  omega

theorem width : m.log2 + f.places m = f.fractionBits := Nat.add_sub_of_le holds.narrow

theorem full : 2 ^ f.fractionBits ≤ m * 2 ^ f.places m := by
  rw [← holds.width, Nat.pow_add]
  exact Nat.mul_le_mul_right _ (Nat.log2_self_le holds.some)

theorem within : m * 2 ^ f.places m < 2 * 2 ^ f.fractionBits := by
  rw [← holds.width, Nat.pow_add, ← Nat.mul_assoc, ← Nat.pow_succ']
  exact Nat.mul_lt_mul_of_pos_right Nat.lt_log2_self (Nat.two_pow_pos _)

theorem room : f.steps m q + 2 ≤ f.topExponent := by
  have low := holds.low
  have high := holds.high
  unfold steps
  omega

theorem finite : f.steps m q * 2 ^ f.fractionBits + m * 2 ^ f.places m < f.infinity := by
  have top : (f.steps m q + 2) * 2 ^ f.fractionBits ≤ f.infinity :=
    Nat.mul_le_mul_right _ holds.room
  have within := holds.within
  rw [Nat.add_mul] at top
  omega

theorem roundMagnitude_eq : f.roundMagnitude (quotient m q).1 (quotient m q).2 =
    f.steps m q * 2 ^ f.fractionBits + m * 2 ^ f.places m := by
  have unfolded (num den : Nat) : f.roundMagnitude num den =
      if num = 0 then 0
      else
        let q := max f.minExponent (floorLog2 num den - f.fractionBits)
        min f.infinity ((q - f.minExponent).toNat * 2 ^ f.fractionBits +
          roundQuotient (scale num den q).1 (scale num den q).2) := rfl
  have unit : max f.minExponent (q + m.log2 - f.fractionBits) = q - f.places m := by
    have exponent := holds.exponent
    have width := holds.width
    omega
  have steps : (q - f.places m - f.minExponent).toNat = f.steps m q := by
    have exponent := holds.exponent
    omega
  have value : ratio (scale (quotient m q).1 (quotient m q).2 (q - f.places m)) =
      (m * 2 ^ f.places m : Nat) := by
    rw [ratio_scale, Prod.mk.eta, ratio_quotient, mul_assoc, ← zpow_add₀ (by norm_num),
      show q + -(q - (f.places m : Int)) = f.places m by omega, zpow_natCast]
    push_cast
    rfl
  rw [unfolded, if_neg (quotient_ne_zero holds.some q), floorLog2_quotient holds.some, unit]
  dsimp only
  rw [steps, roundQuotient_of_ratio (scale_pos _ (quotient_pos m q) _) value]
  exact Nat.min_eq_right (Nat.le_of_lt holds.finite)

/-- A number that a format holds is read back as it was written, but for its width. -/
theorem decode_roundBinary (negative : Bool) : f.decode (f.roundBinary negative m q) =
    .finite negative (m * 2 ^ f.places m) (q - f.places m) := by
  have written : f.roundBinary negative m q =
      f.withSign negative (f.steps m q * 2 ^ f.fractionBits + m * 2 ^ f.places m) :=
    congrArg (f.withSign negative) holds.roundMagnitude_eq
  obtain ⟨fraction, split⟩ := Nat.exists_eq_add_of_le holds.full
  have below : fraction < 2 ^ f.fractionBits := by
    have within := holds.within
    omega
  have magnitude : f.steps m q * 2 ^ f.fractionBits + m * 2 ^ f.places m =
      fraction + 2 ^ f.fractionBits * (f.steps m q + 1) := by
    rw [split, Nat.mul_add, Nat.mul_one, Nat.mul_comm]
    omega
  have field : (f.steps m q * 2 ^ f.fractionBits + m * 2 ^ f.places m) / 2 ^ f.fractionBits =
      f.steps m q + 1 := by
    rw [magnitude, Nat.add_mul_div_left _ _ (Nat.two_pow_pos _), Nat.div_eq_of_lt below,
      Nat.zero_add]
  have rest : (f.steps m q * 2 ^ f.fractionBits + m * 2 ^ f.places m) % 2 ^ f.fractionBits =
      fraction := by
    rw [magnitude, Nat.add_mul_mod_self_left, Nat.mod_eq_of_lt below]
  have room := holds.room
  rw [written, f.decode_withSign negative (holds.finite.trans f.infinity_lt), field, rest,
    if_neg (by omega), if_neg (Nat.succ_ne_zero _), Nat.add_sub_cancel, holds.exponent, ← split]

end Holds

theorem roundBinary_zero (f : Format) (negative : Bool) (q : Int) :
    f.roundBinary negative 0 q = f.withSign negative 0 := by
  have none : (scale 0 1 (-q)).1 = 0 := by
    unfold scale
    split
    · rfl
    · exact Nat.zero_mul _
  change f.withSign negative (f.roundMagnitude (scale 0 1 (-q)).1 (scale 0 1 (-q)).2) = _
  rw [none, roundMagnitude, if_pos rfl]

theorem encode_lt (f : Format) (quiet : f.quietNaN < f.signBit) (d : Datum) :
    f.encode d < 2 * f.signBit := by
  have signed (negative : Bool) {magnitude : Nat} (inside : magnitude ≤ f.infinity) :
      f.withSign negative magnitude < 2 * f.signBit := by
    have infinity_lt := f.infinity_lt
    unfold withSign
    split
    · omega
    · omega
  cases d with
  | nan =>
    have quiet : f.encode .nan < f.signBit := quiet
    omega
  | infinite negative => exact signed negative (Nat.le_refl _)
  | finite negative m q => exact signed negative (f.roundMagnitude_le _ _)

end Format

/-- Whether two readings are of one number, of which the second may count in smaller units. -/
inductive Datum.Finer : Datum → Datum → Prop where
  | nan : Finer .nan .nan
  | infinite (negative : Bool) : Finer (.infinite negative) (.infinite negative)
  | finite (negative : Bool) (m : Nat) (q : Int) (places : Nat) :
    Finer (.finite negative m q) (.finite negative (m * 2 ^ places) (q - places))

open Format

theorem decode_single {n m : Nat} {q : Int} {negative : Bool}
    (read : Format.single.decode n = .finite negative m q) :
    m < 2 ^ 24 ∧ -149 ≤ q ∧ q ≤ 104 := by
  have width : 2 ^ Format.single.fractionBits = 8388608 := rfl
  have top : Format.single.topExponent = 255 := rfl
  have bit : Format.single.signBit = 2147483648 := rfl
  have least : Format.single.minExponent = -149 := rfl
  unfold decode at read
  simp only [Nat.pow_eq, width, top, bit, least] at read
  split at read
  · split at read
    · cases read
    · cases read
  · split at read
    · cases read
      omega
    · cases read
      omega

end Lockstep.Number

namespace Lockstep.Single

open Number

/-- Every single takes the full width of a double, and needs no more. -/
theorem holds_double {x : Single} {negative : Bool} {m : Nat} {q : Int}
    (read : x.datum = .finite negative m q) (some : m ≠ 0) : Format.double.Holds m q := by
  obtain ⟨few, low, high⟩ := decode_single read
  have least : Format.double.minExponent = -1074 := rfl
  have width : Format.double.fractionBits = 52 := rfl
  have top : Format.double.topExponent = 2047 := rfl
  have log2 : m.log2 < 24 := (Nat.log2_lt some).mpr few
  constructor
  case some => exact some
  all_goals omega

theorem toNat_widen (x : Single) : x.widen.bits.toNat = Format.double.encode x.datum :=
  UInt64.toNat_ofNat_of_lt' (Format.double.encode_lt (by decide) x.datum)

/-- No rounding takes place when a single is made a double. -/
theorem widen_finer (x : Single) : x.datum.Finer x.widen.datum := by
  rw [Double.datum, toNat_widen]
  cases read : x.datum with
  | nan => exact .nan
  | infinite negative =>
    cases negative with
    | false => exact .infinite false
    | true => exact .infinite true
  | finite negative m q =>
    by_cases none : m = 0
    · subst none
      obtain ⟨-, low, -⟩ := decode_single read
      have zero : Format.double.encode (.finite negative 0 q) =
          Format.double.withSign negative 0 := Format.double.roundBinary_zero negative q
      have least : Format.double.minExponent = q - (q + 1074).toNat := by
        change (-1074 : Int) = _
        omega
      have scaled := Datum.Finer.finite negative 0 q (q + 1074).toNat
      rw [Nat.zero_mul] at scaled
      rwa [zero, Format.double.decode_withSign negative (by decide), Nat.zero_div,
        if_neg (by decide), if_pos rfl, Nat.zero_mod, least]
    · change Datum.Finer _ (Format.double.decode (Format.double.roundBinary negative m q))
      rw [(holds_double read none).decode_roundBinary]
      exact .finite negative m q _

end Lockstep.Single
