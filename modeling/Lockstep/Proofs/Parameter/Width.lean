import Lockstep.Proofs.Parameter.Value

/-! How far a value of a kind reaches on the wire.

The bytes up to the kind's width are the value and all others are not looked at. So
values and the bytes that count determine each other.
-/

set_option autoImplicit false

namespace Lockstep.Parameter

open Wire

theorem Kind.width_le (k : Kind) : k.width ≤ valueCapacity := by cases k <;> decide

theorem Kind.ofCode?_eq_none_iff {tag : UInt32} : ofCode? tag = none ↔ tag ∉ [0, 1, 2, 3, 4] := by
  unfold ofCode?
  split
  case h_6 => simp_all
  all_goals simp

namespace Value

theorem length_bytes (v : Value) : v.bytes.length = v.kind.width := by
  cases v with
  | float x | double x | s64 i => exact length_littleBytes _ _
  | vec3Float v | vec3Double v =>
    obtain ⟨a, b, c, rfl⟩ : ∃ a b c, v = #v[a, b, c] := ⟨_, _, _, triple_eq v⟩
    simp [bytes, kind, Kind.width]

theorem littleValue_lt (bytes : List UInt8) : littleValue bytes < 256 ^ bytes.length := by
  induction bytes with
  | nil => decide
  | cons b rest ih =>
    have bound := b.toNat_lt
    rw [List.length_cons, Nat.pow_succ, littleValue]
    omega

section

variable {wire : WireValue}

theorem length_at {offset width : Nat} (inside : offset + width ≤ valueCapacity) :
    ((wire.toList.drop offset).take width).length = width := by
  rw [List.length_take, List.length_drop, Vector.length_toList]
  omega

/-- Reading a number off the wire loses none of its bytes. -/
theorem littleBytes_at {offset width : Nat} (inside : offset + width ≤ valueCapacity) :
    littleBytes width (littleValue ((wire.toList.drop offset).take width)) =
      (wire.toList.drop offset).take width := by
  have whole := littleBytes_littleValue ((wire.toList.drop offset).take width)
  rwa [length_at inside] at whole

theorem bytes_singleAt {offset : Nat} (inside : offset + 4 ≤ valueCapacity) :
    littleBytes 4 (singleAt wire offset).bits.toNat = (wire.toList.drop offset).take 4 := by
  have small := littleValue_lt ((wire.toList.drop offset).take 4)
  rw [length_at inside] at small
  rw [singleAt, Single.ofNatBits, UInt32.toNat_ofNat_of_lt' small, littleBytes_at inside]

theorem bytes_wordAt {offset : Nat} (inside : offset + 8 ≤ valueCapacity) :
    littleBytes 8 (wordAt wire offset).toNat = (wire.toList.drop offset).take 8 := by
  have small := littleValue_lt ((wire.toList.drop offset).take 8)
  rw [length_at inside] at small
  rw [wordAt, UInt64.toNat_ofNat_of_lt' small, littleBytes_at inside]

theorem bytes_ofWire (k : Kind) : (ofWire k wire).bytes = wire.toList.take k.width := by
  cases k with
  | float => exact bytes_singleAt (by decide)
  | double => exact bytes_wordAt (by decide)
  | s64 => exact bytes_wordAt (by decide)
  | vec3Float =>
    rw [ofWire, bytes, toList_triple, bytes_singleAt (by decide), bytes_singleAt (by decide),
      bytes_singleAt (by decide), Kind.width, show 12 = 4 + 4 + 4 from rfl, List.take_add,
      List.take_add, List.drop_zero]
  | vec3Double =>
    rw [ofWire, bytes, toList_triple, bytes_wordAt (by decide), bytes_wordAt (by decide),
      bytes_wordAt (by decide), Kind.width, show 24 = 8 + 8 + 8 from rfl, List.take_add,
      List.take_add, List.drop_zero]

theorem toList_toWire_ofWire (k : Kind) : (ofWire k wire).toWire.toList =
    wire.toList.take k.width ++ List.replicate (valueCapacity - k.width) 0 := by
  have length := length_bytes (ofWire k wire)
  rw [kind_ofWire] at length
  rw [toList_toWire (by rw [length]; exact k.width_le), length, bytes_ofWire]

theorem ofWire_eq_iff {wire' : WireValue} (k : Kind) :
    ofWire k wire = ofWire k wire' ↔ wire.toList.take k.width = wire'.toList.take k.width := by
  constructor
  · intro same
    rw [← bytes_ofWire, same, bytes_ofWire]
  · intro same
    have wires : (ofWire k wire).toWire = (ofWire k wire').toWire := by
      rw [← Vector.toList_inj, toList_toWire_ofWire, toList_toWire_ofWire, same]
    have read := congrArg (ofWire k) wires
    have first := ofWire_toWire (ofWire k wire)
    have second := ofWire_toWire (ofWire k wire')
    rw [kind_ofWire] at first second
    rwa [first, second] at read

end

theorem getElem_toWire (v : Value) {i : Nat} (inside : i < valueCapacity)
    (beyond : v.kind.width ≤ i) : v.toWire[i] = 0 := by
  have fits : v.bytes.length ≤ valueCapacity := by
    rw [length_bytes]
    exact v.kind.width_le
  rw [← length_bytes] at beyond
  rw [← Vector.getElem_toList (by rwa [Vector.length_toList])]
  simp only [toList_toWire fits, List.getElem_append_right beyond, List.getElem_replicate]

theorem ofTagged_code (k : Kind) (wire : WireValue) : ofTagged k.code wire = .ok (ofWire k wire) := by
  rw [ofTagged, Kind.ofCode?_code]

theorem ofTagged_eq_error_iff {tag : UInt32} {wire : WireValue} {e : Error} :
    ofTagged tag wire = .error e ↔ Kind.ofCode? tag = none ∧ e = .unknownKind tag := by
  unfold ofTagged
  cases Kind.ofCode? tag with
  | none => simp [eq_comm]
  | some k => simp

/-- A value of any kind comes back from its tag and its bytes as it was, bit for bit, and all bytes
beyond its width are zero. Any bytes at all are a value of any kind; written again, that has
the bytes up to the width and zeros behind them, so two wires hold the same value just if they
are the same up to there. Reading fails for a tag that is none of the five, and for nothing else. -/
theorem wire_keeps_values :
    (∀ v : Value, ofTagged v.kind.code v.toWire = .ok v ∧
      ∀ (i : Nat) (inside : i < valueCapacity), v.kind.width ≤ i → v.toWire[i] = 0) ∧
    (∀ (k : Kind) (wire : WireValue), ofTagged k.code wire = .ok (ofWire k wire) ∧
      (ofWire k wire).kind = k ∧
      (ofWire k wire).toWire.toList =
        wire.toList.take k.width ++ List.replicate (valueCapacity - k.width) 0) ∧
    (∀ (k : Kind) (wire wire' : WireValue),
      ofWire k wire = ofWire k wire' ↔ wire.toList.take k.width = wire'.toList.take k.width) ∧
    (∀ (tag : UInt32) (wire : WireValue) (e : Error),
      ofTagged tag wire = .error e ↔ tag ∉ [0, 1, 2, 3, 4] ∧ e = .unknownKind tag) := by
  refine ⟨?back, ?again, fun k wire wire' => ofWire_eq_iff k, ?refused⟩
  case back =>
    intro v
    constructor
    · rw [ofTagged_code, ofWire_toWire]
    · intro i inside beyond
      exact v.getElem_toWire inside beyond
  case again =>
    intro k wire
    exact ⟨ofTagged_code k wire, kind_ofWire k wire, toList_toWire_ofWire k⟩
  case refused =>
    intro tag wire e
    rw [ofTagged_eq_error_iff, Kind.ofCode?_eq_none_iff]

/-- A NaN with a payload, and bytes behind it that belong to nothing. -/
theorem nan_between_bytes :
    let wire : WireValue := padded valueCapacity [0x01, 0x00, 0xa0, 0x7f, 0xff, 0xff]
    let nan : Value := .float ⟨0x7fa00001⟩
    ofTagged 0 wire = .ok nan ∧ nan.toWire[4] = 0 ∧ ofTagged 0 nan.toWire = .ok nan ∧
      ofTagged 5 wire = .error (.unknownKind 5) := by
  intro wire nan
  obtain ⟨back, -, same, refused⟩ := wire_keeps_values
  obtain ⟨read, zero⟩ := back nan
  refine ⟨?_, zero 4 (by decide) (by decide), read, (refused 5 wire _).mpr ⟨by decide, rfl⟩⟩
  have first : ofWire .float wire = ofWire .float nan.toWire :=
    (same .float wire nan.toWire).mpr (by decide +kernel)
  have tagged := ofTagged_code .float wire
  rw [first] at tagged
  exact tagged.trans ((ofTagged_code .float nan.toWire).symm.trans read)

end Value

end Lockstep.Parameter
