import Mathlib.Data.List.TakeWhile
import Lockstep.Proofs.Text.Faithful
import Lockstep.Proofs.Text.Terminated

/-! Where a text is cut that does not fit a buffer.

The writer looks for the place from behind: it steps back byte by byte until a character
begins. As one begins at the front of every text, and at the fourth byte back at the latest, it
stops in time; and what it keeps is what is kept going forward, character by character.
-/

set_option autoImplicit false

namespace Lockstep.Text

open Utf8

/-- A character begins at an offset, or the text ends there. -/
def isBoundary (bytes : List UInt8) (offset : Nat) : Bool :=
  match bytes[offset]? with
  | some b => !isContinuation b
  | none => offset = bytes.length

/-- Step back from an offset as far as the next boundary. There is no step back from 0. -/
def stepBack (bytes : List UInt8) : Nat → Option Nat
  | 0 => if isBoundary bytes 0 then some 0 else none
  | offset + 1 =>
    if isBoundary bytes (offset + 1) then some (offset + 1) else stepBack bytes offset

def front? (count : Nat) (bytes : List UInt8) : Option (List UInt8) :=
  if count ≤ bytes.length then some (bytes.take count) else none

def back? (offset : Nat) (bytes : List UInt8) : Option (List UInt8) :=
  if offset ≤ bytes.length then some (bytes.drop offset) else none

/-- Write a text into a buffer where it stands, and say how many bytes of it were kept: find
the cut, copy what is in front of it, then fill the rest with zeros. Nothing comes of it
if a step leads below 0 or an offset lies behind the end of what it is used on. -/
def writeInPlace (buffer : List UInt8) (text : String) : Option (Nat × List UInt8) :=
  match buffer.length with
  | 0 => some (0, buffer)
  | room + 1 => do
    let cut ← stepBack (encode text) (min (encode text).length room)
    let copied ← front? cut (encode text)
    let buffer := copied ++ (← back? cut buffer)
    let rest ← back? cut buffer
    some (cut, (← front? cut buffer) ++ List.replicate rest.length 0)

/-- The last place up to a limit at which a text can be cut. -/
structure LastBoundary (text : String) (limit n : Nat) : Prop where
  boundary : (String.Pos.Raw.mk n).IsValid text
  within : n ≤ limit
  last : ∀ k, (String.Pos.Raw.mk k).IsValid text → k ≤ limit → k ≤ n

-- Boundaries, told by single bytes.

theorem isContinuation_byte_lead {n : Nat} (small : n < 256) (outside : n < 128 ∨ 192 ≤ n) :
    isContinuation (UInt8.ofNat n) = false := by
  apply Bool.eq_false_iff.mpr
  intro continues
  have range := byte_of_isContinuation continues
  rw [toNat_byte small] at range
  omega

theorem encodeChar_begins (c : Char) : ∃ lead tail, encodeChar c = lead :: tail ∧
    isContinuation lead = false ∧ ∀ b ∈ tail, isContinuation b = true := by
  have valid := toNat_valid c
  simp only [encodeChar, String.utf8EncodeChar]
  generalize c.val.toNat = v at valid
  by_cases one : v ≤ 127
  · refine ⟨_, _, by rw [if_pos one], isContinuation_byte_lead (by omega) (by omega), ?_⟩
    exact fun b none => absurd none List.not_mem_nil
  have six (w : Nat) : isContinuation (UInt8.ofNat (w % 64 + 128)) = true :=
    isContinuation_byte (by omega) (by omega)
  by_cases two : v ≤ 2047
  · refine ⟨_, _, by rw [if_neg one, if_pos two],
      isContinuation_byte_lead (by omega) (by omega), ?_⟩
    simp only [List.forall_mem_cons, List.not_mem_nil, six, false_implies, implies_true, and_self]
  by_cases three : v ≤ 65535
  · refine ⟨_, _, by rw [if_neg one, if_neg two, if_pos three],
      isContinuation_byte_lead (by omega) (by omega), ?_⟩
    simp only [List.forall_mem_cons, List.not_mem_nil, six, false_implies, implies_true, and_self]
  · refine ⟨_, _, by rw [if_neg one, if_neg two, if_neg three],
      isContinuation_byte_lead (by omega) (by omega), ?_⟩
    simp only [List.forall_mem_cons, List.not_mem_nil, six, false_implies, implies_true, and_self]

theorem isBoundary_append {bytes more : List UInt8} {offset : Nat}
    (behind : bytes.length ≤ offset) :
    isBoundary (bytes ++ more) offset = isBoundary more (offset - bytes.length) := by
  unfold isBoundary
  rw [List.getElem?_append_right behind, List.length_append]
  cases more[offset - bytes.length]? with
  | some b => rfl
  | none => exact decide_eq_decide.mpr (by omega)

/-- Among the bytes of characters there is a boundary just behind each of them. -/
theorem isBoundary_iff_front (cs : List Char) (offset : Nat) :
    isBoundary (cs.flatMap encodeChar) offset = true ↔
      ∃ front, front <+: cs ∧ (front.flatMap encodeChar).length = offset := by
  induction cs generalizing offset with
  | nil =>
    simp [isBoundary, eq_comm]
  | cons c rest ih =>
    obtain ⟨lead, tail, bytes, first, others⟩ := encodeChar_begins c
    rw [List.flatMap_cons]
    by_cases inside : offset < (encodeChar c).length
    · rw [isBoundary, List.getElem?_append_left inside, List.getElem?_eq_getElem inside]
      cases offset with
      | zero =>
        refine iff_of_true ?_ ⟨[], List.nil_prefix, rfl⟩
        simp [bytes, first]
      | succ offset =>
        have continues : isContinuation (encodeChar c)[offset + 1] = true := by
          simp only [bytes, List.getElem_cons_succ]
          exact others _ (List.getElem_mem _)
        refine iff_of_false (by simp [continues]) ?_
        rintro ⟨front, before, length⟩
        cases front with
        | nil => cases length
        | cons c' front =>
          obtain ⟨rfl, -⟩ := List.cons_prefix_cons.mp before
          rw [List.flatMap_cons, List.length_append] at length
          omega
    have behind := Nat.le_of_not_lt inside
    rw [isBoundary_append behind, ih]
    constructor
    · rintro ⟨front, before, length⟩
      refine ⟨c :: front, List.cons_prefix_cons.mpr ⟨rfl, before⟩, ?_⟩
      rw [List.flatMap_cons, List.length_append]
      omega
    · rintro ⟨front, before, length⟩
      cases front with
      | nil =>
        have some : 0 < (encodeChar c).length := bytes ▸ Nat.succ_pos tail.length
        rw [List.flatMap_nil, List.length_nil] at length
        omega
      | cons c' front =>
        obtain ⟨rfl, others⟩ := List.cons_prefix_cons.mp before
        rw [List.flatMap_cons, List.length_append] at length
        exact ⟨front, others, by omega⟩

theorem utf8ByteSize_ofList (cs : List Char) :
    (String.ofList cs).utf8ByteSize = (cs.flatMap encodeChar).length := by
  rw [← length_encode, encode, String.toList_ofList]

theorem isValid_iff_front (text : String) (n : Nat) : (String.Pos.Raw.mk n).IsValid text ↔
    ∃ front, front <+: text.toList ∧ (front.flatMap encodeChar).length = n := by
  rw [String.Pos.Raw.isValid_iff_exists_append]
  constructor
  · rintro ⟨s, t, rfl, here⟩
    refine ⟨s.toList, ?_, ?_⟩
    · rw [String.toList_append]
      exact List.prefix_append ..
    · have size := congrArg String.Pos.Raw.byteIdx here
      rw [← encode, length_encode]
      exact size.symm
  · rintro ⟨front, ⟨rest, whole⟩, rfl⟩
    refine ⟨String.ofList front, String.ofList rest, ?_, ?_⟩
    · rw [← String.ofList_append, whole, String.ofList_toList]
    · rw [← utf8ByteSize_ofList]
      rfl

theorem isBoundary_encode_iff (text : String) (n : Nat) :
    isBoundary (encode text) n = true ↔ (String.Pos.Raw.mk n).IsValid text := by
  rw [isValid_iff_front, encode, isBoundary_iff_front]

-- The way back.

/-- Whoever starts at a boundary in sight comes to the last one on the way. -/
theorem stepBack_spec {bytes : List UInt8} (starts : isBoundary bytes 0 = true) (limit : Nat) :
    ∃ n, stepBack bytes limit = some n ∧ isBoundary bytes n = true ∧ n ≤ limit ∧
      ∀ k, isBoundary bytes k = true → k ≤ limit → k ≤ n := by
  induction limit with
  | zero =>
    refine ⟨0, by rw [stepBack, if_pos starts], starts, Nat.le_refl 0, ?_⟩
    intro k _ within
    exact within
  | succ limit ih =>
    by_cases here : isBoundary bytes (limit + 1) = true
    · refine ⟨limit + 1, by rw [stepBack, if_pos here], here, Nat.le_refl _, ?_⟩
      intro k _ within
      exact within
    obtain ⟨n, found, boundary, within, last⟩ := ih
    refine ⟨n, by rw [stepBack, if_neg here, found], boundary, Nat.le_succ_of_le within, ?_⟩
    intro k boundary' within'
    obtain nearer | rfl := Nat.le_succ_iff.mp within'
    · exact last k boundary' nearer
    · exact absurd boundary' here

theorem stepBack_encode (text : String) (limit : Nat) :
    ∃ n, stepBack (encode text) limit = some n ∧ LastBoundary text limit n := by
  have starts := (isBoundary_encode_iff text 0).mpr String.Pos.Raw.isValid_zero
  obtain ⟨n, found, boundary, within, last⟩ := stepBack_spec starts limit
  refine ⟨n, found, (isBoundary_encode_iff text n).mp boundary, within, ?_⟩
  intro k valid within'
  exact last k ((isBoundary_encode_iff text k).mpr valid) within'

namespace LastBoundary

variable {text kept : String} {limit room n m : Nat}

theorem unique (first : LastBoundary text limit n) (second : LastBoundary text limit m) : n = m :=
  Nat.le_antisymm (second.last n first.boundary first.within)
    (first.last m second.boundary second.within)

/-- The longest part that fits ends at the last boundary in reach. -/
theorem of_longestPrefix (longest : LongestPrefix room kept text) :
    LastBoundary text (min text.utf8ByteSize room) kept.utf8ByteSize := by
  have boundary : (String.Pos.Raw.mk kept.utf8ByteSize).IsValid text :=
    (isValid_iff_front text _).mpr ⟨kept.toList, longest.front, length_encode kept⟩
  refine ⟨boundary, Nat.le_min.mpr ⟨boundary.le_utf8ByteSize, longest.fits⟩, ?_⟩
  intro k valid within
  obtain ⟨front, before, rfl⟩ := (isValid_iff_front text k).mp valid
  rw [← utf8ByteSize_ofList] at within
  have inside := longest.longest (String.ofList front) (by rwa [String.toList_ofList])
    (Nat.le_trans within (Nat.min_le_right _ _))
  rw [String.toList_ofList] at inside
  obtain ⟨rest, whole⟩ := inside
  rw [← length_encode, encode, ← whole, List.flatMap_append, List.length_append]
  exact Nat.le_add_right _ _

end LastBoundary

/-- At most three bytes of room are left over, since a character has four at most. -/
theorem LongestPrefix.close {room : Nat} {kept text : String}
    (longest : LongestPrefix room kept text) (long : room < text.utf8ByteSize) :
    room ≤ kept.utf8ByteSize + 3 := by
  obtain ⟨rest, whole⟩ := longest.front
  cases rest with
  | nil =>
    rw [List.append_nil] at whole
    have fits := longest.fits
    rw [String.toList_inj.mp whole] at fits
    omega
  | cons c rest =>
    by_contra more
    have four : (String.ofList (kept.toList ++ [c])).utf8ByteSize ≤ kept.utf8ByteSize + 4 := by
      rw [String.ofList_append, String.ofList_toList, String.utf8ByteSize_append]
      simp [Char.utf8Size_le_four]
    have front : kept.toList ++ [c] <+: text.toList := ⟨rest, by rw [← whole]; simp⟩
    have inside := longest.longest (String.ofList (kept.toList ++ [c]))
      (by rwa [String.toList_ofList]) (by omega)
    rw [String.toList_ofList] at inside
    exact absurd inside.length_le (by simp)

-- What is written, and what is read of it.

theorem front?_append (bytes more : List UInt8) :
    front? bytes.length (bytes ++ more) = some bytes := by
  rw [front?, if_pos (by simp), List.take_left']
  rfl

theorem back?_append (bytes more : List UInt8) :
    back? bytes.length (bytes ++ more) = some more := by
  rw [back?, if_pos (by simp), List.drop_left']
  rfl

theorem encode_front {kept text : String} (front : kept.toList <+: text.toList) :
    encode kept <+: encode text := by
  obtain ⟨rest, whole⟩ := front
  refine ⟨rest.flatMap encodeChar, ?_⟩
  rw [encode, encode, ← whole, List.flatMap_append]

/-- Cutting from behind and filling up in place gives what going forward gives. -/
theorem writeInPlace_eq (buffer : List UInt8) (text : String) : writeInPlace buffer text =
    some ((keptBytes buffer.length text).length, writeTerminated buffer text) := by
  unfold writeInPlace
  cases capacity : buffer.length with
  | zero =>
    obtain rfl := List.eq_nil_of_length_eq_zero capacity
    rfl
  | succ room =>
    obtain ⟨kept, longest, bytes⟩ := keptBytes_spec room text
    obtain ⟨n, found, last⟩ := stepBack_encode text (min (encode text).length room)
    rw [length_encode] at last
    obtain rfl := last.unique (.of_longestPrefix longest)
    obtain ⟨cut, whole⟩ := encode_front longest.front
    obtain ⟨old, under, rfl, length⟩ : ∃ old under, buffer = old ++ under ∧
        old.length = (encode kept).length := by
      refine ⟨_, _, (List.take_append_drop (encode kept).length buffer).symm, ?_⟩
      rw [List.length_take_of_le]
      have fits := longest.fits
      rw [length_encode]
      omega
    rw [← length_encode] at found
    have copied : front? (encode kept).length (encode text) = some (encode kept) :=
      whole ▸ front?_append _ _
    have below : back? (encode kept).length (old ++ under) = some under :=
      length ▸ back?_append old under
    have filled : writeTerminated (old ++ under) text =
        encode kept ++ List.replicate under.length 0 := by
      rw [writeTerminated, capacity, bytes, ← capacity, List.length_append, length,
        Nat.add_sub_cancel_left]
    simp only [found, copied, below, back?_append, front?_append, Option.bind_eq_bind,
      Option.bind_some, filled, bytes]

theorem takeWhile_encode (cs : List Char) : (cs.flatMap encodeChar).takeWhile (· != 0) =
    (cs.takeWhile (· != '\x00')).flatMap encodeChar := by
  induction cs with
  | nil => rfl
  | cons c rest ih =>
    rw [List.flatMap_cons]
    by_cases nul : c = '\x00'
    · rw [nul, List.takeWhile_cons_of_neg (by decide)]
      rfl
    · have some : ∀ b ∈ encodeChar c, (b != 0) = true := by
        intro b inside
        apply bne_iff_ne.mpr
        rintro rfl
        exact nul (eq_nul_of_zero_mem inside)
      have goes : (c != '\x00') = true := bne_iff_ne.mpr nul
      rw [List.takeWhile_append_of_pos some, ih, List.takeWhile_cons, if_pos goes,
        List.flatMap_cons]

theorem terminatedBytes_append (bytes : List UInt8) {more : List UInt8}
    (ended : terminatedBytes more = []) :
    terminatedBytes (bytes ++ more) = terminatedBytes bytes := by
  unfold terminatedBytes at ended ⊢
  induction bytes with
  | nil => exact ended
  | cons b rest ih => simp only [List.cons_append, List.takeWhile_cons, ih]

theorem terminatedBytes_zeros (count : Nat) : terminatedBytes (List.replicate count 0) = [] := by
  cases count <;> rfl

theorem keptBytes_front (capacity : Nat) (text : String) : ∃ kept : String,
    kept.toList <+: text.toList ∧ keptBytes capacity text = encode kept := by
  cases capacity with
  | zero => exact ⟨"", List.nil_prefix, rfl⟩
  | succ room =>
    obtain ⟨kept, longest, bytes⟩ := keptBytes_spec room text
    exact ⟨kept, longest.front, bytes⟩

def beforeNul (text : String) : String := String.ofList (text.toList.takeWhile (· != '\x00'))

theorem takeWhile_encode_beforeNul (kept : String) :
    (encode kept).takeWhile (· != 0) = encode (beforeNul kept) := by
  rw [encode, takeWhile_encode, encode, beforeNul, String.toList_ofList]

theorem beforeNul_of_free {text : String} (free : '\x00' ∉ text.toList) :
    beforeNul text = text := by
  have all : text.toList.takeWhile (· != '\x00') = text.toList := by
    apply List.takeWhile_eq_self_iff.mpr
    intro c member
    apply bne_iff_ne.mpr
    rintro rfl
    exact free member
  rw [beforeNul, all, String.ofList_toList]

/-- A buffer holds the first bytes of a text up to the last boundary that leaves room for a NUL,
and zeros behind them, whatever it held before: all of the text if it fits, and otherwise all but
the last four bytes of the buffer at the worst. What is read of it is the text in front of the
first NUL among these bytes. An empty buffer stays empty, and the way back to the
boundary never leads below 0. -/
theorem longest_fitting_text_kept (buffer : List UInt8) (text : String) :
    ∃ n, writeInPlace buffer text = some (n, writeTerminated buffer text) ∧
      n = (keptBytes buffer.length text).length ∧
      (buffer = [] → n = 0 ∧ writeTerminated buffer text = buffer) ∧
      (∀ room, buffer.length = room + 1 →
        LastBoundary text (min text.utf8ByteSize room) n ∧
        (text.utf8ByteSize ≤ room → n = text.utf8ByteSize) ∧
        (room < text.utf8ByteSize → buffer.length - 4 ≤ n)) ∧
      writeTerminated buffer text =
        (encode text).take n ++ List.replicate (buffer.length - n) 0 ∧
      (∀ other, other.length = buffer.length →
        writeInPlace other text = writeInPlace buffer text) ∧
      terminatedBytes (writeTerminated buffer text) =
        ((encode text).take n).takeWhile (· != 0) ∧
      (terminatedBytes (writeTerminated buffer text)).toByteArray.IsValidUTF8 ∧
      (∃ read : String, read.toList <+: text.toList ∧
        terminatedBytes (writeTerminated buffer text) = encode read) ∧
      ('\x00' ∉ text.toList →
        terminatedBytes (writeTerminated buffer text) = (encode text).take n) := by
  obtain ⟨kept, front, bytes⟩ := keptBytes_front buffer.length text
  have first : (encode text).take (encode kept).length = encode kept :=
    (List.prefix_iff_eq_take.mp (encode_front front)).symm
  have written : writeTerminated buffer text =
      encode kept ++ List.replicate (buffer.length - (encode kept).length) 0 := by
    rw [writeTerminated, bytes]
  have read : terminatedBytes (writeTerminated buffer text) = encode (beforeNul kept) := by
    rw [written, terminatedBytes_append _ (terminatedBytes_zeros _), terminatedBytes,
      takeWhile_encode_beforeNul]
  refine ⟨(encode kept).length, bytes ▸ writeInPlace_eq buffer text, by rw [bytes], ?none, ?last,
    by rw [first, written], ?any, by rw [read, first, takeWhile_encode_beforeNul], ?valid, ?part,
    ?whole⟩
  case none =>
    rintro rfl
    rw [writeTerminated, ← bytes]
    exact ⟨rfl, rfl⟩
  case last =>
    intro room capacity
    obtain ⟨other, longest, same⟩ := keptBytes_spec room text
    rw [← capacity, bytes] at same
    obtain rfl := encode_injective same
    rw [length_encode]
    refine ⟨.of_longestPrefix longest, fun fits => by rw [longest.whole fits], fun long => ?_⟩
    have close := longest.close long
    omega
  case any =>
    intro other same
    rw [writeInPlace_eq, writeInPlace_eq, writeTerminated, writeTerminated, same]
  case valid =>
    rw [read]
    exact isValidUTF8_iff.mpr ⟨_, decode_encode _⟩
  case part =>
    refine ⟨beforeNul kept, ?_, read⟩
    rw [beforeNul, String.toList_ofList]
    exact (List.takeWhile_prefix _).trans front
  case whole =>
    intro free
    rw [read, beforeNul_of_free fun nul => free (front.subset nul), first]

-- There is room for a byte more, but not for both bytes of the last character.
example : writeInPlace [7, 7, 7, 7] "abé" = some (2, [97, 98, 0, 0]) := by decide +kernel

end Lockstep.Text
