import Mathlib.Data.List.Basic
import Lockstep.Parameter.Name
import Lockstep.Proofs.Text.Utf8

/-! A name that was encoded is read back as it was. -/

set_option autoImplicit false

namespace Lockstep.Parameter

open Text

theorem takeWhile_before_zeros {bytes : List UInt8} (free : 0 ∉ bytes) (n : Nat) :
    (bytes ++ List.replicate n 0).takeWhile (· != 0) = bytes := by
  rw [List.takeWhile_append_of_pos]
  · cases n <;> simp [List.replicate_succ]
  · intro b member
    apply bne_iff_ne.mpr
    rintro rfl
    exact free member

/-- What is accepted as a name: a text that is not empty, not too long and free of NUL. -/
theorem checkName_eq_ok {name : String} (checked : checkName name = .ok ()) :
    '\x00' ∉ name.toList ∧ name.utf8ByteSize ≤ maxNameLength := by
  unfold checkName at checked
  by_cases member : '\x00' ∈ name.toList
  · rw [if_pos member] at checked
    split at checked <;> cases checked
  · refine ⟨member, Nat.le_of_not_lt fun long => ?_⟩
    rw [if_neg member, if_pos long] at checked
    split at checked <;> cases checked

theorem decodeName_encodeName {name : String} {wire : WireName}
    (encoded : encodeName name = .ok wire) : decodeName wire = .ok name := by
  unfold encodeName at encoded
  cases checked : checkName name with
  | error e => simp [checked, bind, Except.bind] at encoded
  | ok _ =>
    obtain ⟨free, short⟩ := checkName_eq_ok checked
    have room : (Utf8.encode name).length < nameCapacity := by
      rw [Utf8.length_encode]
      exact Nat.lt_succ_of_le short
    obtain rfl : Wire.padded nameCapacity (Utf8.encode name) = wire := by
      simpa [checked, bind, Except.bind, pure, Except.pure] using encoded
    have bytes : (Wire.padded nameCapacity (Utf8.encode name)).toList =
        Utf8.encode name ++ List.replicate (nameCapacity - (Utf8.encode name).length) 0 := by
      rw [Wire.toList_padded, List.take_of_length_le (Nat.le_of_lt room)]
    have ended : (Utf8.encode name ++
        List.replicate (nameCapacity - (Utf8.encode name).length) 0).contains 0 = true := by
      simp
      omega
    unfold decodeName
    rw [bytes, ended, takeWhile_before_zeros (Utf8.zero_notMem_encode free), Utf8.decode_encode]
    simp [checked, bind, Except.bind, pure, Except.pure, Except.mapError]

end Lockstep.Parameter
