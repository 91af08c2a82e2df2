import Mathlib.Data.Char
import Lockstep.Proofs.Effect
import Lockstep.Proofs.Text.Utf8

/-! The bytes of a text stand for it in every respect.

Strict decoding reads a text just where its bytes stand, so nothing else is valid,
and texts are in order exactly as their bytes are.
-/

set_option autoImplicit false

namespace Lockstep.Text.Utf8

theorem val_ofNat {n : Nat} (valid : n.isValidChar) : (Char.ofNat n).val.toNat = n := by
  rw [Char.ofNat, dif_pos valid]
  rfl

theorem encodeChar_one {v : Nat} (small : v < 128) :
    encodeChar (Char.ofNat v) = [UInt8.ofNat v] := by
  have value := val_ofNat (n := v) (.inl (by omega))
  simp only [encodeChar, String.utf8EncodeChar, value]
  rw [if_pos (by omega)]

theorem encodeChar_two {l m : Nat} (low : 194 ≤ l) (high : l < 224) (first : 128 ≤ m)
    (last : m < 192) : encodeChar (Char.ofNat (l % 32 * 64 + m % 64)) =
      [UInt8.ofNat l, UInt8.ofNat m] := by
  have value := val_ofNat (n := l % 32 * 64 + m % 64) (.inl (by omega))
  simp only [encodeChar, String.utf8EncodeChar, value]
  rw [if_neg (by omega), if_pos (by omega)]
  congr <;> omega

theorem encodeChar_three {l m n : Nat} (low : 224 ≤ l) (high : l < 240)
    (first : (secondBounds l).1 ≤ m) (last : m ≤ (secondBounds l).2)
    (third : 128 ≤ n ∧ n < 192) :
    encodeChar (Char.ofNat ((l % 16 * 64 + m % 64) * 64 + n % 64)) =
      [UInt8.ofNat l, UInt8.ofNat m, UInt8.ofNat n] := by
  have bounds : 128 ≤ m ∧ m < 192 ∧ (l = 224 → 160 ≤ m) ∧ (l = 237 → m < 160) := by
    unfold secondBounds at first last
    grind
  have value := val_ofNat (n := (l % 16 * 64 + m % 64) * 64 + n % 64)
    (by unfold Nat.isValidChar; omega)
  simp only [encodeChar, String.utf8EncodeChar, value]
  rw [if_neg (by omega), if_neg (by omega), if_pos (by omega)]
  congr <;> omega

theorem encodeChar_four {l m n k : Nat} (low : 240 ≤ l) (high : l < 245)
    (first : (secondBounds l).1 ≤ m) (last : m ≤ (secondBounds l).2)
    (third : 128 ≤ n ∧ n < 192) (fourth : 128 ≤ k ∧ k < 192) :
    encodeChar (Char.ofNat (((l % 8 * 64 + m % 64) * 64 + n % 64) * 64 + k % 64)) =
      [UInt8.ofNat l, UInt8.ofNat m, UInt8.ofNat n, UInt8.ofNat k] := by
  have bounds : 128 ≤ m ∧ m < 192 ∧ (l = 240 → 144 ≤ m) ∧ (l = 244 → m < 144) := by
    unfold secondBounds at first last
    grind
  have value := val_ofNat (n := ((l % 8 * 64 + m % 64) * 64 + n % 64) * 64 + k % 64)
    (by unfold Nat.isValidChar; omega)
  simp only [encodeChar, String.utf8EncodeChar, value]
  rw [if_neg (by omega), if_neg (by omega), if_neg (by omega)]
  congr <;> omega

theorem byte_of_isContinuation {b : UInt8} (continues : isContinuation b = true) :
    128 ≤ b.toNat ∧ b.toNat < 192 := by
  simp only [isContinuation, Bool.and_eq_true, decide_eq_true_eq, UInt8.le_iff_toNat_le] at continues
  simp at continues
  omega

section

variable {l width read : Nat} {rest : List UInt8} {c : Char}

theorem follow_second (small : l < 256)
    (went : follow (UInt8.ofNat l) width rest = .char c read) : ∃ b tail, rest = b :: tail ∧
      (b < (secondRange (UInt8.ofNat l)).1 || (secondRange (UInt8.ofNat l)).2 < b) = false ∧
      (secondBounds l).1 ≤ b.toNat ∧ b.toNat ≤ (secondBounds l).2 := by
  cases rest with
  | nil => cases went
  | cons b tail =>
    have fits : (b < (secondRange (UInt8.ofNat l)).1 || (secondRange (UInt8.ofNat l)).2 < b) =
        false := by
      apply Bool.eq_false_iff.mpr
      intro refused
      simp [follow, refused] at went
    refine ⟨b, tail, rfl, fits, ?_⟩
    rw [← secondRange_byte small]
    simpa [lt_iff] using fits

theorem encodeChar_of_follow_two (low : 194 ≤ l) (high : l < 224)
    (went : follow (UInt8.ofNat l) 2 rest = .char c read) :
    encodeChar c = UInt8.ofNat l :: rest.take (read - 1) := by
  have small : l < 256 := by omega
  obtain ⟨b, tail, rfl, fits, first, last⟩ := follow_second small went
  have bounds : secondBounds l = (128, 191) := by
    simp only [secondBounds]
    rw [if_neg (by omega), if_neg (by omega), if_neg (by omega), if_neg (by omega)]
  rw [bounds] at first last
  simp only [follow, fits] at went
  cases went
  have encoded := encodeChar_two low high first (Nat.lt_succ_of_le last)
  rw [UInt8.ofNat_toNat] at encoded
  rw [extend, toNat_byte small]
  exact encoded

theorem encodeChar_of_follow_three (low : 224 ≤ l) (high : l < 240)
    (went : follow (UInt8.ofNat l) 3 rest = .char c read) :
    encodeChar c = UInt8.ofNat l :: rest.take (read - 1) := by
  have small : l < 256 := by omega
  obtain ⟨b, tail, rfl, fits, first, last⟩ := follow_second small went
  cases tail with
  | nil => simp [follow, fits] at went
  | cons d tail =>
    cases third : isContinuation d with
    | false => simp [follow, fits, third] at went
    | true =>
      simp only [follow, fits, third] at went
      cases went
      have encoded := encodeChar_three low high first last (byte_of_isContinuation third)
      simp only [UInt8.ofNat_toNat] at encoded
      rw [extend, extend, toNat_byte small]
      exact encoded

theorem encodeChar_of_follow_four (low : 240 ≤ l) (high : l < 245)
    (went : follow (UInt8.ofNat l) 4 rest = .char c read) :
    encodeChar c = UInt8.ofNat l :: rest.take (read - 1) := by
  have small : l < 256 := by omega
  obtain ⟨b, tail, rfl, fits, first, last⟩ := follow_second small went
  match tail with
  | [] => simp [follow, fits] at went
  | [d] => cases third : isContinuation d <;> simp [follow, fits, third] at went
  | d :: e :: tail =>
    cases third : isContinuation d with
    | false => simp [follow, fits, third] at went
    | true =>
      cases fourth : isContinuation e with
      | false => simp [follow, fits, third, fourth] at went
      | true =>
        simp only [follow, fits, third, fourth] at went
        cases went
        have encoded := encodeChar_four low high first last (byte_of_isContinuation third)
          (byte_of_isContinuation fourth)
        simp only [UInt8.ofNat_toNat] at encoded
        rw [extend, extend, extend, toNat_byte small]
        exact encoded

end

theorem encodeChar_of_head {lead : UInt8} {rest : List UInt8} {c : Char} {read : Nat}
    (went : head lead rest = .char c read) : encodeChar c = lead :: rest.take (read - 1) := by
  obtain ⟨l, small, rfl⟩ : ∃ l < 256, lead = UInt8.ofNat l :=
    ⟨lead.toNat, lead.toNat_lt, UInt8.ofNat_toNat.symm⟩
  rw [head, sequenceWidth_byte small] at went
  by_cases one : l < 128
  · rw [if_pos one] at went
    cases went
    rw [toNat_byte small, encodeChar_one one]
    rfl
  rw [if_neg one] at went
  by_cases none : l < 194
  · rw [if_pos none] at went
    cases went
  rw [if_neg none] at went
  by_cases two : l < 224
  · rw [if_pos two] at went
    exact encodeChar_of_follow_two (Nat.le_of_not_lt none) two went
  rw [if_neg two] at went
  by_cases three : l < 240
  · rw [if_pos three] at went
    exact encodeChar_of_follow_three (Nat.le_of_not_lt two) three went
  rw [if_neg three] at went
  by_cases four : l < 245
  · rw [if_pos four] at went
    exact encodeChar_of_follow_four (Nat.le_of_not_lt three) four went
  · rw [if_neg four] at went
    cases went

theorem encode_of_decodeFrom {index : Nat} {bytes : List UInt8} {cs : List Char}
    (decoded : decodeFrom index bytes = .ok cs) : cs.flatMap encodeChar = bytes := by
  fun_induction decodeFrom index bytes generalizing cs with
  | case1 =>
    cases decoded
    rfl
  | case2 index lead rest c width read ih =>
    obtain ⟨later, rested, whole⟩ := Effect.bind_ok decoded
    cases whole
    rw [List.flatMap_cons, encodeChar_of_head read, ih rested, List.cons_append,
      List.take_append_drop]
  | case3 => cases decoded
  | case4 => cases decoded

/-- Strict decoding reads a text exactly where its bytes stand. -/
theorem decode_eq_ok_iff {bytes : List UInt8} {s : String} :
    decode bytes = .ok s ↔ encode s = bytes := by
  constructor
  · intro decoded
    obtain ⟨cs, read, rfl⟩ := Effect.map_ok decoded
    rw [encode, String.toList_ofList]
    exact encode_of_decodeFrom read
  · rintro rfl
    exact decode_encode s

theorem encode_injective {s t : String} (same : encode s = encode t) : s = t :=
  Except.ok.inj ((decode_eq_ok_iff.mpr same).symm.trans (decode_encode t))

theorem isValidUTF8_iff {bytes : List UInt8} :
    bytes.toByteArray.IsValidUTF8 ↔ ∃ s, decode bytes = .ok s := by
  constructor
  · rintro ⟨cs, same⟩
    refine ⟨String.ofList cs, decode_eq_ok_iff.mpr ?_⟩
    rw [encode, String.toList_ofList]
    have data : (cs.flatMap encodeChar).toByteArray = bytes.toByteArray := same.symm
    simpa using congrArg (fun array => array.data.toList) data
  · rintro ⟨s, decoded⟩
    obtain rfl := decode_eq_ok_iff.mp decoded
    exact ⟨s.toList, rfl⟩

theorem byte_lt_byte {m n : Nat} (left : m < 256) (right : n < 256) :
    UInt8.ofNat m < UInt8.ofNat n ↔ m < n := by
  rw [lt_iff, toNat_byte left, toNat_byte right]

theorem byte_eq_byte {m n : Nat} (left : m < 256) (right : n < 256) :
    UInt8.ofNat m = UInt8.ofNat n ↔ m = n := by
  rw [eq_iff, toNat_byte left, toNat_byte right]

theorem digits_lt {v w : Nat} (less : v < w) : v / 262144 < w / 262144 ∨
    v / 262144 = w / 262144 ∧ (v / 4096 % 64 < w / 4096 % 64 ∨
      v / 4096 % 64 = w / 4096 % 64 ∧ (v / 64 % 64 < w / 64 % 64 ∨
        v / 64 % 64 = w / 64 % 64 ∧ v % 64 < w % 64)) := by
  have digits (n : Nat) :
      n = ((n / 262144 * 64 + n / 4096 % 64) * 64 + n / 64 % 64) * 64 + n % 64 := by omega
  have bound (n : Nat) : n % 64 < 64 := Nat.mod_lt n (by decide)
  have first := digits v
  have second := digits w
  have bounds := And.intro (bound (v / 4096)) (And.intro (bound (v / 64)) (bound v))
  have bounds' := And.intro (bound (w / 4096)) (And.intro (bound (w / 64)) (bound w))
  generalize v / 262144 = v₃, v / 4096 % 64 = v₂, v / 64 % 64 = v₁, v % 64 = v₀ at *
  generalize w / 262144 = w₃, w / 4096 % 64 = w₂, w / 64 % 64 = w₁, w % 64 = w₀ at *
  omega

theorem encodeChar_append_lt {c d : Char} (less : c < d) (xs ys : List UInt8) :
    encodeChar c ++ xs < encodeChar d ++ ys := by
  have points : c.val.toNat < d.val.toNat := UInt32.lt_iff_toNat_lt.mp less
  have valid := toNat_valid d
  simp only [encodeChar, String.utf8EncodeChar]
  generalize c.val.toNat = v at *
  generalize d.val.toNat = w at *
  have digits := digits_lt points
  have top : v / 262144 % 8 = v / 262144 ∧ w / 262144 % 8 = w / 262144 := by omega
  split_ifs <;> simp (disch := omega) only [List.cons_append, List.nil_append,
    List.cons_lt_cons_iff, byte_lt_byte, byte_eq_byte] <;> omega

theorem append_lt_append_iff (front xs ys : List UInt8) : front ++ xs < front ++ ys ↔ xs < ys := by
  induction front with
  | nil => rfl
  | cons b front ih => simpa [List.cons_lt_cons_iff] using ih

theorem flatMap_encodeChar_lt_iff (cs ds : List Char) :
    cs.flatMap encodeChar < ds.flatMap encodeChar ↔ cs < ds := by
  induction cs generalizing ds with
  | nil =>
    cases ds with
    | nil => simp
    | cons d ds =>
      obtain ⟨lead, tail, bytes, -⟩ := head_encodeChar d []
      simp [bytes]
  | cons c cs ih =>
    cases ds with
    | nil => simp
    | cons d ds =>
      rw [List.flatMap_cons, List.flatMap_cons, List.cons_lt_cons_iff]
      obtain less | rfl | more := lt_trichotomy c d
      · simp only [less, encodeChar_append_lt less, true_or]
      · simp [append_lt_append_iff, ih]
      · have reversed := encodeChar_append_lt more (ds.flatMap encodeChar) (cs.flatMap encodeChar)
        simp only [List.lt_asymm reversed, false_iff, not_or, not_and]
        exact ⟨lt_asymm more, fun same => absurd same (ne_of_gt more)⟩

theorem encode_lt_iff {s t : String} : encode s < encode t ↔ s < t := by
  rw [encode, encode, flatMap_encodeChar_lt_iff, String.lt_iff]

end Lockstep.Text.Utf8
