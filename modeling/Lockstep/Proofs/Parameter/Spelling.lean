import Mathlib.Data.List.TakeWhile
import Lockstep.Proofs.Parameter.Name
import Lockstep.Proofs.Text.Faithful

/-! The names that there are, and the bytes that spell them.

Encoding accepts a text and decoding accepts bytes for the same reason: both come
to a text that is a name. What stands behind the first NUL takes no part in it.
-/

set_option autoImplicit false

namespace Lockstep.Parameter

open Text

structure Proper (name : String) : Prop where
  some : name ≠ ""
  free : '\x00' ∉ name.toList
  short : name.utf8ByteSize ≤ maxNameLength

theorem checkName_eq_ok_iff {name : String} : checkName name = .ok () ↔ Proper name := by
  unfold checkName
  constructor
  · intro checked
    split at checked
    · cases checked
    next some =>
      split at checked
      · cases checked
      next free =>
        split at checked
        · cases checked
        next short => exact ⟨by simpa using some, free, Nat.le_of_not_lt short⟩
  · rintro ⟨some, free, short⟩
    rw [if_neg (by simpa using some), if_neg free, if_neg (Nat.not_lt.mpr short)]

theorem encodeName_eq_ok_iff {name : String} {wire : WireName} : encodeName name = .ok wire ↔
    Proper name ∧ Wire.padded nameCapacity (Utf8.encode name) = wire := by
  rw [← checkName_eq_ok_iff, encodeName]
  cases checkName name with
  | error e => simp [bind, Except.bind]
  | ok _ => simp [bind, Except.bind, pure, Except.pure]

namespace WireName

variable (wire : WireName)

/-- Where the first NUL stands; there is none if that is behind the last byte. -/
def stop : Nat := wire.toList.idxOf 0

def spelled : List UInt8 := wire.toList.take wire.stop

/-- The same bytes up to the first NUL, and zeros after it. -/
def cleared : WireName := wire.mapIdx fun i b => if i < wire.stop then b else 0

variable {wire}

theorem takeWhile_eq_spelled : wire.toList.takeWhile (· != 0) = wire.spelled := by
  rw [spelled, stop, List.idxOf, List.takeWhile_eq_take_findIdx_not]
  simp only [bne, Bool.not_not]

theorem stop_le : wire.stop ≤ nameCapacity := by
  have bound : wire.stop ≤ wire.toList.length := List.idxOf_le_length
  rwa [Vector.length_toList] at bound

theorem length_spelled : wire.spelled.length = wire.stop := by
  rw [spelled, List.length_take, Vector.length_toList]
  exact Nat.min_eq_left stop_le

theorem stop_lt_iff : wire.stop < nameCapacity ↔ 0 ∈ wire.toList := by
  have ended := List.idxOf_lt_length_iff (l := wire.toList) (a := 0)
  rwa [Vector.length_toList] at ended

theorem zero_notMem_spelled : 0 ∉ wire.spelled := by
  rw [← takeWhile_eq_spelled]
  intro zero
  exact absurd (List.mem_takeWhile_imp zero) (by decide)

theorem getElem_stop (ended : wire.stop < nameCapacity) : wire[wire.stop] = 0 := by
  have here : wire.stop < wire.toList.length := by rwa [Vector.length_toList]
  have zero : wire.toList[wire.stop] = 0 := List.getElem_idxOf here
  rwa [Vector.getElem_toList] at zero

theorem toList_cleared :
    wire.cleared.toList = wire.spelled ++ List.replicate (nameCapacity - wire.stop) 0 := by
  have bound : wire.stop ≤ nameCapacity := stop_le
  apply List.ext_getElem
  · rw [List.length_append, length_spelled, List.length_replicate, Vector.length_toList]
    omega
  · intro i inside _
    by_cases before : i < wire.stop
    · rw [List.getElem_append_left (by rwa [length_spelled])]
      simp [cleared, spelled, before]
    · rw [List.getElem_append_right (by rw [length_spelled]; exact Nat.le_of_not_lt before)]
      simp [cleared, before]

theorem cleared_eq_iff : wire.cleared = wire ↔
    ∀ (i : Nat) (inside : i < nameCapacity), wire.stop < i → wire[i] = 0 := by
  constructor
  · intro same i inside behind
    rw [← same]
    simp [cleared, Nat.not_lt.mpr (Nat.le_of_lt behind)]
  · intro zeros
    ext i inside
    obtain before | here | behind := Nat.lt_trichotomy i wire.stop
    · simp [cleared, before]
    · subst here
      simp [cleared, getElem_stop inside]
    · simp [cleared, Nat.not_lt.mpr (Nat.le_of_lt behind), zeros i inside behind]

end WireName

theorem free_of_spelled {wire : WireName} {name : String}
    (spells : Utf8.encode name = wire.spelled) : '\x00' ∉ name.toList := by
  intro nul
  have zero : 0 ∈ Utf8.encode name := List.mem_flatMap.mpr ⟨_, nul, by decide⟩
  rw [spells] at zero
  exact WireName.zero_notMem_spelled zero

theorem proper_iff_of_spelled {wire : WireName} {name : String} (ended : wire.stop < nameCapacity)
    (spells : Utf8.encode name = wire.spelled) : Proper name ↔ wire.stop ≠ 0 := by
  have length := congrArg List.length spells
  rw [Utf8.length_encode, WireName.length_spelled] at length
  rw [← length]
  constructor
  · intro proper empty
    exact proper.some (String.utf8ByteSize_eq_zero_iff.mp empty)
  · intro some
    constructor
    case some => exact fun empty => some (String.utf8ByteSize_eq_zero_iff.mpr empty)
    case free => exact free_of_spelled spells
    case short =>
      rw [length]
      exact Nat.le_of_lt_succ ended

theorem decodeName_eq_ok_iff {wire : WireName} {name : String} : decodeName wire = .ok name ↔
    wire.stop < nameCapacity ∧ Proper name ∧ Utf8.encode name = wire.spelled := by
  rw [WireName.stop_lt_iff, ← checkName_eq_ok_iff, ← Utf8.decode_eq_ok_iff]
  unfold decodeName
  rw [WireName.takeWhile_eq_spelled]
  by_cases ended : 0 ∈ wire.toList
  case neg => simp [ended, bind, Except.bind, throw, throwThe, MonadExceptOf.throw]
  simp only [List.contains_iff_mem.mpr ended, ended, true_and]
  constructor
  · intro decoded
    obtain ⟨text, read, decoded⟩ := Effect.bind_ok decoded
    obtain ⟨_, checked, same⟩ := Effect.bind_ok decoded
    cases same
    exact ⟨checked, Effect.mapError_ok read⟩
  · rintro ⟨checked, read⟩
    simp [read, checked, Except.mapError, bind, Except.bind]
    rfl

theorem bytes_of_encodeName {name : String} {wire : WireName} (encoded : encodeName name = .ok wire) :
    wire.toList.take name.utf8ByteSize = Utf8.encode name ∧ name.utf8ByteSize < nameCapacity ∧
      ∀ (i : Nat) (inside : i < nameCapacity), name.utf8ByteSize ≤ i → wire[i] = 0 := by
  obtain ⟨proper, rfl⟩ := encodeName_eq_ok_iff.mp encoded
  have room : name.utf8ByteSize < nameCapacity := Nat.lt_succ_of_le proper.short
  have short : (Utf8.encode name).length ≤ nameCapacity := by
    rw [Utf8.length_encode]
    exact Nat.le_of_lt room
  have bytes := Wire.toList_padded nameCapacity (Utf8.encode name)
  rw [List.take_of_length_le short] at bytes
  refine ⟨?_, room, ?_⟩
  · rw [bytes, List.take_left' (Utf8.length_encode name)]
  · intro i inside behind
    rw [← Utf8.length_encode] at behind
    rw [← Vector.getElem_toList (by rwa [Vector.length_toList])]
    simp only [bytes, List.getElem_append_right behind, List.getElem_replicate]

/-- What is decoded is encoded again as it was, but for what stood behind its end. -/
theorem encodeName_of_decodeName {wire : WireName} {name : String}
    (decoded : decodeName wire = .ok name) : encodeName name = .ok wire.cleared := by
  obtain ⟨-, proper, spells⟩ := decodeName_eq_ok_iff.mp decoded
  refine encodeName_eq_ok_iff.mpr ⟨proper, Vector.toList_inj.mp ?_⟩
  have fits : wire.spelled.length ≤ nameCapacity := by
    rw [WireName.length_spelled]
    exact WireName.stop_le
  rw [spells, Wire.toList_padded, WireName.toList_cleared, List.take_of_length_le fits,
    WireName.length_spelled]

theorem fault_of_checkName {name : String} {cause : Error} (failed : checkName name = .error cause) :
    cause = .invalidName .empty ∨
    cause = .invalidName (.containsNul name) ∧ '\x00' ∈ name.toList ∨
    cause = .nameTooLong name ∧ maxNameLength < name.utf8ByteSize := by
  unfold checkName at failed
  split at failed
  · cases failed
    exact .inl rfl
  split at failed
  next nul =>
    cases failed
    exact .inr (.inl ⟨rfl, nul⟩)
  split at failed
  next long =>
    cases failed
    exact .inr (.inr ⟨rfl, long⟩)
  next => cases failed

/-- What can be wrong with bytes: there is no NUL, or nothing in front of it, or no text.
What fits in front of a NUL fits a name. -/
theorem fault_of_decodeName {wire : WireName} {cause : Error}
    (failed : decodeName wire = .error cause) :
    cause = .invalidName .unterminated ∨ cause = .invalidName .empty ∨
      ∃ fault, cause = .invalidName (.malformed fault) := by
  unfold decodeName at failed
  rw [WireName.takeWhile_eq_spelled] at failed
  split at failed
  · cases failed
    exact .inl rfl
  next ended =>
    obtain malformed | ⟨text, read, failed⟩ := Effect.bind_error failed
    · obtain ⟨fault, -, other⟩ := Effect.mapError_error malformed
      exact .inr (.inr ⟨fault, other⟩)
    have spells := Utf8.decode_eq_ok_iff.mp (Effect.mapError_ok read)
    obtain unfit | ⟨_, -, failed⟩ := Effect.bind_error failed
    · obtain empty | ⟨-, nul⟩ | ⟨-, long⟩ := fault_of_checkName unfit
      · exact .inr (.inl empty)
      · exact absurd nul (free_of_spelled spells)
      · have length := congrArg List.length spells
        rw [Utf8.length_encode, WireName.length_spelled] at length
        have room : wire.stop < nameCapacity := WireName.stop_lt_iff.mpr (by simpa using ended)
        unfold maxNameLength at long
        omega
    · cases failed

namespace WireName

variable {wire wire' : WireName}

theorem take_stop (ended : wire.stop < nameCapacity) :
    wire.toList.take (wire.stop + 1) = wire.spelled ++ [0] := by
  have here : wire.stop < wire.toList.length := by rwa [Vector.length_toList]
  rw [List.take_succ_eq_append_getElem here, Vector.getElem_toList, getElem_stop ended, spelled]

theorem spelled_eq_iff (ended : wire.stop < nameCapacity) (ended' : wire'.stop < nameCapacity) :
    wire.spelled = wire'.spelled ↔
      wire.toList.take (wire.stop + 1) = wire'.toList.take (wire.stop + 1) := by
  rw [take_stop ended]
  constructor
  · intro same
    have stops := congrArg List.length same
    rw [length_spelled, length_spelled] at stops
    rw [stops, take_stop ended', same]
  · intro same
    have whole := List.take_append_drop (wire.stop + 1) wire'.toList
    rw [← same, List.append_assoc, List.singleton_append] at whole
    have front : wire'.toList.takeWhile (· != 0) = wire'.spelled := takeWhile_eq_spelled
    rw [← front, ← whole, List.takeWhile_append_of_pos]
    · simp
    · intro b member
      apply bne_iff_ne.mpr
      rintro rfl
      exact zero_notMem_spelled member

end WireName

/-- A text can be encoded exactly if it is a name: not empty, free of NUL, and of at most 63 bytes.
Its bytes come first and zeros after them, and it is read back from them. Bytes can be
decoded exactly if there is a NUL among them, not the first of all, with valid UTF-8 in front of it.
They give the text that is spelled there, and encoding it gives them back, but for
what stood behind the NUL; so two wires give the same name exactly if they are the same up to it. -/
theorem spelling_decides_names :
    (∀ name, (∃ wire, encodeName name = .ok wire) ↔
      name ≠ "" ∧ '\x00' ∉ name.toList ∧ name.utf8ByteSize ≤ 63) ∧
    (∀ name wire, encodeName name = .ok wire →
      wire.toList.take name.utf8ByteSize = Utf8.encode name ∧
      name.utf8ByteSize < nameCapacity ∧
      (∀ (i : Nat) (inside : i < nameCapacity), name.utf8ByteSize ≤ i → wire[i] = 0) ∧
      decodeName wire = .ok name) ∧
    (∀ wire, (∃ name, decodeName wire = .ok name) ↔
      wire.stop < nameCapacity ∧ wire.stop ≠ 0 ∧ wire.spelled.toByteArray.IsValidUTF8) ∧
    (∀ wire name, decodeName wire = .ok name →
      Utf8.encode name = wire.spelled ∧ encodeName name = .ok wire.cleared ∧
      (encodeName name = .ok wire ↔
        ∀ (i : Nat) (inside : i < nameCapacity), wire.stop < i → wire[i] = 0)) ∧
    (∀ wire name, decodeName wire ≠ .error (.nameTooLong name)) ∧
    (∀ wire wire' name name', decodeName wire = .ok name → decodeName wire' = .ok name' →
      (name = name' ↔
        wire.toList.take (wire.stop + 1) = wire'.toList.take (wire.stop + 1))) := by
  refine ⟨?encoded, ?bytes, ?decoded, ?again, ?short, ?same⟩
  case encoded =>
    intro name
    constructor
    · rintro ⟨wire, encoded⟩
      obtain ⟨⟨some, free, short⟩, -⟩ := encodeName_eq_ok_iff.mp encoded
      exact ⟨some, free, short⟩
    · rintro ⟨some, free, short⟩
      exact ⟨_, encodeName_eq_ok_iff.mpr ⟨⟨some, free, short⟩, rfl⟩⟩
  case bytes =>
    intro name wire encoded
    obtain ⟨bytes, room, zeros⟩ := bytes_of_encodeName encoded
    exact ⟨bytes, room, zeros, decodeName_encodeName encoded⟩
  case decoded =>
    intro wire
    rw [Utf8.isValidUTF8_iff]
    constructor
    · rintro ⟨name, decoded⟩
      obtain ⟨ended, proper, spells⟩ := decodeName_eq_ok_iff.mp decoded
      exact ⟨ended, (proper_iff_of_spelled ended spells).mp proper, name,
        Utf8.decode_eq_ok_iff.mpr spells⟩
    · rintro ⟨ended, some, name, read⟩
      have spells := Utf8.decode_eq_ok_iff.mp read
      have proper := (proper_iff_of_spelled ended spells).mpr some
      exact ⟨name, decodeName_eq_ok_iff.mpr ⟨ended, proper, spells⟩⟩
  case again =>
    intro wire name decoded
    obtain ⟨-, -, spells⟩ := decodeName_eq_ok_iff.mp decoded
    have encoded := encodeName_of_decodeName decoded
    refine ⟨spells, encoded, ?_⟩
    rw [encoded, Except.ok.injEq]
    exact WireName.cleared_eq_iff
  case short =>
    intro wire name failed
    obtain other | other | ⟨_, other⟩ := fault_of_decodeName failed <;> cases other
  case same =>
    intro wire wire' name name' decoded decoded'
    obtain ⟨ended, -, spells⟩ := decodeName_eq_ok_iff.mp decoded
    obtain ⟨ended', -, spells'⟩ := decodeName_eq_ok_iff.mp decoded'
    rw [← WireName.spelled_eq_iff ended ended', ← spells, ← spells']
    exact ⟨congrArg _, Utf8.encode_injective⟩

/-- Two letters, a NUL, and a byte behind it that stands in no text. -/
theorem two_letters_spelled :
    let wire : WireName := Wire.padded nameCapacity [0x6b, 0x70, 0, 0xff]
    decodeName wire = .ok "kp" ∧ encodeName "kp" = .ok wire.cleared ∧ encodeName "kp" ≠ .ok wire := by
  intro wire
  obtain ⟨-, -, -, again, -⟩ := spelling_decides_names
  have decoded : decodeName wire = .ok "kp" :=
    decodeName_eq_ok_iff.mpr ⟨by decide +kernel, ⟨by decide, by decide, by decide⟩, by decide +kernel⟩
  obtain ⟨-, cleared, same⟩ := again wire "kp" decoded
  refine ⟨decoded, cleared, fun kept => ?_⟩
  exact absurd (same.mp kept 3 (by decide) (by decide +kernel)) (by decide +kernel)

end Lockstep.Parameter
