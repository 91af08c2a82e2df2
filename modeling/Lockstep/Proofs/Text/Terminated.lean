import Lockstep.Proofs.Parameter.Name
import Lockstep.Text.Terminated

/-! A text that was cut to fit is read back as what was kept of it.

The cut is between two characters, so what was kept is a text; and as no
character but NUL has a zero byte, reading stops where the text ends.
-/

set_option autoImplicit false

namespace Lockstep.Text

open Utf8

/-- The longest part of a text, from its start, that fits into some room. -/
structure LongestPrefix (room : Nat) (kept text : String) : Prop where
  front : kept.toList <+: text.toList
  fits : kept.utf8ByteSize ≤ room
  longest : ∀ other : String, other.toList <+: text.toList → other.utf8ByteSize ≤ room →
    other.toList <+: kept.toList

theorem fittingBytes_spec (room : Nat) (cs : List Char) : ∃ kept, kept <+: cs ∧
    fittingBytes room cs = kept.flatMap encodeChar ∧ (kept.flatMap encodeChar).length ≤ room ∧
    ∀ other, other <+: cs → (other.flatMap encodeChar).length ≤ room → other <+: kept := by
  induction cs generalizing room with
  | nil =>
    refine ⟨[], List.prefix_rfl, rfl, Nat.zero_le _, ?_⟩
    intro other front _
    exact front
  | cons c rest ih =>
    by_cases room' : (encodeChar c).length ≤ room
    case neg =>
      refine ⟨[], List.nil_prefix, by rw [fittingBytes, if_neg room']; rfl, Nat.zero_le _, ?_⟩
      intro other front fits
      cases other with
      | nil => exact List.prefix_rfl
      | cons c' other =>
        obtain ⟨rfl, -⟩ := List.cons_prefix_cons.mp front
        rw [List.flatMap_cons, List.length_append] at fits
        omega
    obtain ⟨kept, front, bytes, fits, longest⟩ := ih (room - (encodeChar c).length)
    refine ⟨c :: kept, List.cons_prefix_cons.mpr ⟨rfl, front⟩, ?_, ?_, ?_⟩
    · rw [fittingBytes, if_pos room', bytes, List.flatMap_cons]
    · rw [List.flatMap_cons, List.length_append]
      omega
    · intro other front' fits'
      cases other with
      | nil => exact List.nil_prefix
      | cons c' other =>
        obtain ⟨rfl, others⟩ := List.cons_prefix_cons.mp front'
        rw [List.flatMap_cons, List.length_append] at fits'
        exact List.cons_prefix_cons.mpr ⟨rfl, longest other others (by omega)⟩

/-- What a buffer keeps of a text are the bytes of its longest part that leaves room for a NUL. -/
theorem keptBytes_spec (room : Nat) (text : String) : ∃ kept, LongestPrefix room kept text ∧
    keptBytes (room + 1) text = encode kept := by
  obtain ⟨kept, front, bytes, fits, longest⟩ := fittingBytes_spec room text.toList
  refine ⟨String.ofList kept, ⟨?_, ?_, ?_⟩, ?_⟩
  · rw [String.toList_ofList]
    exact front
  · rw [← length_encode, encode, String.toList_ofList]
    exact fits
  · intro other front' fits'
    rw [← length_encode, encode] at fits'
    rw [String.toList_ofList]
    exact longest _ front' fits'
  · rw [keptBytes, bytes, encode, String.toList_ofList]

theorem LongestPrefix.whole {room : Nat} {kept text : String}
    (longest : LongestPrefix room kept text) (fits : text.utf8ByteSize ≤ room) : kept = text := by
  have all := longest.longest text List.prefix_rfl fits
  exact String.toList_inj.mp (longest.front.eq_of_length_le all.length_le)

theorem LongestPrefix.ne_empty {room : Nat} {kept text : String}
    (longest : LongestPrefix room kept text) (enough : 4 ≤ room) (some : text ≠ "") :
    kept ≠ "" := by
  rintro rfl
  cases chars : text.toList with
  | nil => exact some (String.toList_eq_nil_iff.mp chars)
  | cons c rest =>
    have front : (String.ofList [c]).toList <+: text.toList := by
      rw [chars, String.toList_ofList]
      exact List.cons_prefix_cons.mpr ⟨rfl, List.nil_prefix⟩
    have fits : (String.ofList [c]).utf8ByteSize ≤ room := by
      refine Nat.le_trans ?_ enough
      simp [Char.utf8Size_le_four]
    have inside := longest.longest _ front fits
    simp at inside

theorem lossyChars_encode (cs : List Char) : lossyChars (cs.flatMap encodeChar) = cs := by
  induction cs with
  | nil => rw [List.flatMap_nil, lossyChars]
  | cons c rest ih =>
    obtain ⟨lead, tail, bytes, first⟩ := head_encodeChar c (rest.flatMap encodeChar)
    rw [List.flatMap_cons, bytes, List.cons_append, lossyChars, first]
    simp only [Nat.add_sub_cancel, List.drop_left, ih]

theorem lossy_encode (s : String) : lossy (encode s) = s := by
  rw [lossy, encode, lossyChars_encode, String.ofList_toList]

/-- In a buffer that is large enough a text ends where its padding starts. -/
theorem terminatedBytes_padded {capacity : Nat} {s : String} (free : '\x00' ∉ s.toList)
    (fits : s.utf8ByteSize ≤ capacity) :
    terminatedBytes (Wire.padded capacity (encode s)).toList = encode s := by
  rw [terminatedBytes, Wire.toList_padded, List.take_of_length_le (by rwa [length_encode])]
  exact Parameter.takeWhile_before_zeros (zero_notMem_encode free) _

end Lockstep.Text
