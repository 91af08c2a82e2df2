import Lockstep.Text.Utf8

/-! Decoding gives back what was encoded. -/

set_option autoImplicit false

namespace Lockstep.Text.Utf8

theorem toNat_byte {n : Nat} (small : n < 256) : (UInt8.ofNat n).toNat = n := by
  simpa using small

theorem lt_iff (a b : UInt8) : a < b ↔ a.toNat < b.toNat := UInt8.lt_iff_toNat_lt

theorem eq_iff (a b : UInt8) : a = b ↔ a.toNat = b.toNat := UInt8.toNat_inj.symm

theorem toNat_valid (c : Char) :
    c.val.toNat < 0xd800 ∨ 0xdfff < c.val.toNat ∧ c.val.toNat < 0x110000 := c.valid

theorem isContinuation_byte {n : Nat} (low : 128 ≤ n) (high : n < 192) :
    isContinuation (UInt8.ofNat n) = true := by
  have value := toNat_byte (show n < 256 by omega)
  simp only [isContinuation, Bool.and_eq_true, decide_eq_true_eq, UInt8.le_iff_toNat_le, value]
  simp
  omega

theorem sequenceWidth_byte {n : Nat} (small : n < 256) :
    sequenceWidth (UInt8.ofNat n) =
      if n < 128 then 1 else if n < 194 then 0 else if n < 224 then 2 else if n < 240 then 3
      else if n < 245 then 4 else 0 := by
  have value := toNat_byte small
  simp only [sequenceWidth, lt_iff, value]
  rfl

def secondBounds (lead : Nat) : Nat × Nat :=
  if lead = 224 then (160, 191)
  else if lead = 237 then (128, 159)
  else if lead = 240 then (144, 191)
  else if lead = 244 then (128, 143)
  else (128, 191)

theorem secondRange_byte {n : Nat} (small : n < 256) :
    ((secondRange (UInt8.ofNat n)).1.toNat, (secondRange (UInt8.ofNat n)).2.toNat) =
      secondBounds n := by
  have value := toNat_byte small
  simp only [secondRange, eq_iff, value, secondBounds]
  simp only [show (0xe0 : UInt8).toNat = 224 from rfl, show (0xed : UInt8).toNat = 237 from rfl,
    show (0xf0 : UInt8).toNat = 240 from rfl, show (0xf4 : UInt8).toNat = 244 from rfl]
  split
  · rfl
  · split
    · rfl
    · split
      · rfl
      · split <;> rfl

theorem second_fits {n m : Nat} (small : n < 256) (low : (secondBounds n).1 ≤ m)
    (high : m ≤ (secondBounds n).2) (byte : m < 256) :
    (UInt8.ofNat m < (secondRange (UInt8.ofNat n)).1 ||
      (secondRange (UInt8.ofNat n)).2 < UInt8.ofNat m) = false := by
  rw [← secondRange_byte small] at low high
  have value := toNat_byte byte
  simp only [lt_iff, value, Bool.or_eq_false_iff, decide_eq_false_iff_not]
  dsimp only at low high
  omega

theorem extend_byte (point : Nat) {n : Nat} (small : n < 256) :
    extend point (UInt8.ofNat n) = point * 64 + n % 64 := by
  rw [extend, toNat_byte small]

theorem head_one {v : Nat} (small : v < 128) (rest : List UInt8) :
    head (UInt8.ofNat v) rest = .char (Char.ofNat v) 1 := by
  have value := toNat_byte (show v < 256 by omega)
  rw [head, sequenceWidth_byte (by omega), if_pos small, value]
  rfl

theorem head_two {l m : Nat} (low : 194 ≤ l) (high : l < 224) (first : 128 ≤ m) (last : m < 192)
    (rest : List UInt8) : head (UInt8.ofNat l) (UInt8.ofNat m :: rest) =
      .char (Char.ofNat (l % 32 * 64 + m % 64)) 2 := by
  have bounds : secondBounds l = (128, 191) := by
    simp only [secondBounds]
    rw [if_neg (by omega), if_neg (by omega), if_neg (by omega), if_neg (by omega)]
  have fits := second_fits (show l < 256 by omega) (m := m) (by rw [bounds]; omega)
    (by rw [bounds]; omega) (by omega)
  rw [head, sequenceWidth_byte (by omega), if_neg (by omega), if_neg (by omega),
    if_pos (by omega)]
  simp only [follow, fits, toNat_byte (show l < 256 by omega),
    extend_byte _ (show m < 256 by omega)]
  simp

theorem head_three {l m n : Nat} (low : 224 ≤ l) (high : l < 240) (first : (secondBounds l).1 ≤ m)
    (last : m ≤ (secondBounds l).2) (byte : m < 192) (third : 128 ≤ n ∧ n < 192)
    (rest : List UInt8) : head (UInt8.ofNat l) (UInt8.ofNat m :: UInt8.ofNat n :: rest) =
      .char (Char.ofNat ((l % 16 * 64 + m % 64) * 64 + n % 64)) 3 := by
  have fits := second_fits (show l < 256 by omega) first last (by omega)
  rw [head, sequenceWidth_byte (by omega), if_neg (by omega), if_neg (by omega),
    if_neg (by omega), if_pos high]
  simp only [follow, fits, toNat_byte (show l < 256 by omega), extend_byte _ (show m < 256 by omega),
    extend_byte _ (show n < 256 by omega), isContinuation_byte third.1 third.2]
  simp

theorem head_four {l m n k : Nat} (low : 240 ≤ l) (high : l < 245) (first : (secondBounds l).1 ≤ m)
    (last : m ≤ (secondBounds l).2) (byte : m < 192) (third : 128 ≤ n ∧ n < 192)
    (fourth : 128 ≤ k ∧ k < 192) (rest : List UInt8) :
    head (UInt8.ofNat l) (UInt8.ofNat m :: UInt8.ofNat n :: UInt8.ofNat k :: rest) =
      .char (Char.ofNat (((l % 8 * 64 + m % 64) * 64 + n % 64) * 64 + k % 64)) 4 := by
  have fits := second_fits (show l < 256 by omega) first last (by omega)
  rw [head, sequenceWidth_byte (by omega), if_neg (by omega), if_neg (by omega),
    if_neg (by omega), if_neg (by omega), if_pos high]
  simp only [follow, fits, toNat_byte (show l < 256 by omega), extend_byte _ (show m < 256 by omega),
    extend_byte _ (show n < 256 by omega), extend_byte _ (show k < 256 by omega),
    isContinuation_byte third.1 third.2, isContinuation_byte fourth.1 fourth.2]
  simp

theorem head_encodeChar (c : Char) (rest : List UInt8) : ∃ lead tail,
    encodeChar c = lead :: tail ∧
      head lead (tail ++ rest) = .char c (tail.length + 1) := by
  have valid := toNat_valid c
  have same : Char.ofNat c.val.toNat = c := Char.ofNat_toNat c
  generalize value : c.val.toNat = v at valid same
  simp only [encodeChar, String.utf8EncodeChar, value]
  by_cases one : v ≤ 127
  · refine ⟨_, _, by rw [if_pos one], ?_⟩
    rw [List.nil_append, head_one (by omega), same]
    rfl
  by_cases two : v ≤ 2047
  · refine ⟨_, _, by rw [if_neg one, if_pos two], ?_⟩
    rw [List.singleton_append, head_two (by omega) (by omega) (by omega) (by omega)]
    rw [show (v / 64 % 32 + 192) % 32 * 64 + (v % 64 + 128) % 64 = v by omega, same]
    rfl
  by_cases three : v ≤ 65535
  · refine ⟨_, _, by rw [if_neg one, if_neg two, if_pos three], ?_⟩
    have bounds : (secondBounds (v / 4096 % 16 + 224)).1 ≤ v / 64 % 64 + 128 ∧
        v / 64 % 64 + 128 ≤ (secondBounds (v / 4096 % 16 + 224)).2 := by
      unfold secondBounds
      split
      · dsimp only; omega
      · split
        · dsimp only; omega
        · rw [if_neg (by omega), if_neg (by omega)]
          dsimp only
          omega
    rw [List.cons_append, List.singleton_append, head_three (by omega) (by omega) bounds.1 bounds.2
      (by omega) (by omega)]
    rw [show ((v / 4096 % 16 + 224) % 16 * 64 + (v / 64 % 64 + 128) % 64) * 64 +
      (v % 64 + 128) % 64 = v by omega, same]
    rfl
  · refine ⟨_, _, by rw [if_neg one, if_neg two, if_neg three], ?_⟩
    have bounds : (secondBounds (v / 262144 % 8 + 240)).1 ≤ v / 4096 % 64 + 128 ∧
        v / 4096 % 64 + 128 ≤ (secondBounds (v / 262144 % 8 + 240)).2 := by
      unfold secondBounds
      rw [if_neg (by omega), if_neg (by omega)]
      split
      · dsimp only; omega
      · split
        · dsimp only; omega
        · dsimp only; omega
    rw [List.cons_append, List.cons_append, List.singleton_append, head_four (by omega) (by omega)
      bounds.1 bounds.2 (by omega) (by omega) (by omega)]
    rw [show (((v / 262144 % 8 + 240) % 8 * 64 + (v / 4096 % 64 + 128) % 64) * 64 +
      (v / 64 % 64 + 128) % 64) * 64 + (v % 64 + 128) % 64 = v by omega, same]
    rfl

theorem decodeFrom_encode (index : Nat) (cs : List Char) :
    decodeFrom index (cs.flatMap encodeChar) = .ok cs := by
  induction cs generalizing index with
  | nil => rw [List.flatMap_nil, decodeFrom]
  | cons c rest ih =>
    obtain ⟨lead, tail, bytes, first⟩ := head_encodeChar c (rest.flatMap encodeChar)
    rw [List.flatMap_cons, bytes, List.cons_append, decodeFrom, first]
    simp only [Nat.add_sub_cancel, List.drop_left, ih]
    rfl

theorem decode_encode (s : String) : decode (encode s) = .ok s := by
  rw [decode, encode, decodeFrom_encode]
  exact congrArg Except.ok String.ofList_toList

theorem length_encode (s : String) : (encode s).length = s.utf8ByteSize := by
  have bytes : s.toByteArray = (encode s).toByteArray := String.utf8Encode_toList.symm
  rw [← String.size_toByteArray, bytes, List.size_toByteArray]

theorem eq_nul_of_zero_mem {c : Char} (zero : (0 : UInt8) ∈ encodeChar c) : c = '\x00' := by
  have value : ∀ n, n < 256 → (0 : UInt8) = UInt8.ofNat n → n = 0 := by
    intro n small same
    have numbers := congrArg UInt8.toNat same
    rw [toNat_byte small] at numbers
    exact numbers.symm
  simp only [encodeChar, String.utf8EncodeChar] at zero
  split at zero
  · have none := value _ (by omega) (List.mem_singleton.mp zero)
    have same : Char.ofNat c.val.toNat = c := Char.ofNat_toNat c
    rw [none] at same
    exact same.symm
  · split at zero
    · simp only [List.mem_cons, List.not_mem_nil, or_false] at zero
      rcases zero with first | second
      · have none := value _ (by omega) first
        omega
      · have none := value _ (by omega) second
        omega
    · split at zero
      · simp only [List.mem_cons, List.not_mem_nil, or_false] at zero
        rcases zero with first | second | third
        · have none := value _ (by omega) first
          omega
        · have none := value _ (by omega) second
          omega
        · have none := value _ (by omega) third
          omega
      · simp only [List.mem_cons, List.not_mem_nil, or_false] at zero
        rcases zero with first | second | third | fourth
        · have none := value _ (by omega) first
          omega
        · have none := value _ (by omega) second
          omega
        · have none := value _ (by omega) third
          omega
        · have none := value _ (by omega) fourth
          omega

theorem zero_notMem_encode {s : String} (free : '\x00' ∉ s.toList) : 0 ∉ encode s := by
  intro zero
  obtain ⟨c, member, inside⟩ := List.mem_flatMap.mp zero
  rw [eq_nul_of_zero_mem inside] at member
  exact free member

end Lockstep.Text.Utf8
