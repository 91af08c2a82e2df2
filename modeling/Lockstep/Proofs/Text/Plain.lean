import Lockstep.Text.Escape

/-! Texts without NUL: those that a buffer gives back whole.

Whatever is put together from such texts is one too, and so are numbers and texts
that were escaped.
-/

set_option autoImplicit false

namespace Lockstep.Text

def Plain (s : String) : Prop := '\x00' ∉ s.toList

instance (s : String) : Decidable (Plain s) := inferInstanceAs (Decidable (_ ∉ _))

/-- A text that says something and can be read back. -/
structure Legible (s : String) : Prop where
  some : s ≠ ""
  plain : Plain s

instance (s : String) : Decidable (Legible s) :=
  decidable_of_iff (s ≠ "" ∧ Plain s) ⟨fun both => ⟨both.1, both.2⟩, fun l => ⟨l.some, l.plain⟩⟩

namespace Plain

variable {s t : String}

theorem append (first : Plain s) (rest : Plain t) : Plain (s ++ t) := by
  unfold Plain
  rw [String.toList_append, List.mem_append, not_or]
  exact ⟨first, rest⟩

theorem ofList {cs : List Char} (free : '\x00' ∉ cs) : Plain (String.ofList cs) := by
  unfold Plain
  rw [String.toList_ofList]
  exact free

theorem of_prefix (plain : Plain t) (front : s.toList <+: t.toList) : Plain s :=
  fun nul => plain (front.subset nul)

theorem intercalate (between : Plain s) {parts : List String} (plain : ∀ t ∈ parts, Plain t) :
    Plain (s.intercalate parts) := by
  unfold Plain
  rw [String.toList_intercalate]
  induction parts with
  | nil => exact List.not_mem_nil
  | cons t rest ih =>
    have first := plain t List.mem_cons_self
    have others := ih fun t member => plain t (List.mem_cons_of_mem _ member)
    cases rest with
    | nil => rwa [List.map_cons, List.map_nil, List.intercalate_singleton]
    | cons u rest =>
      rw [List.map_cons, List.map_cons, List.intercalate_cons_cons]
      simp only [List.mem_append, not_or]
      exact ⟨⟨first, between⟩, others⟩

end Plain

theorem Legible.append {s t : String} (first : Legible s) (rest : Plain t) : Legible (s ++ t) := by
  refine ⟨fun none => first.some ?_, first.plain.append rest⟩
  have chars := congrArg String.toList none
  rw [String.toList_append] at chars
  exact String.toList_eq_nil_iff.mp (List.append_eq_nil_iff.mp chars).1

theorem nul_notMem_toDigits {base : Nat} (some : 1 < base) (n : Nat) :
    '\x00' ∉ Nat.toDigits base n := by
  induction n using Nat.strongRecOn with
  | ind n ih =>
    by_cases small : n < base
    · rw [Nat.toDigits_of_lt_base small]
      simp
    · have large : base ≤ n := Nat.le_of_not_lt small
      rw [Nat.toDigits_of_base_le some large, List.mem_append, not_or]
      have fewer : n / base < n := Nat.div_lt_self (by omega) some
      exact ⟨ih _ fewer, by simp⟩

theorem plain_number (n : Nat) : Plain (toString n) := .ofList (nul_notMem_toDigits (by decide) n)

theorem nul_notMem_escapeChar (style : EscapeStyle) (c : Char) : '\x00' ∉ escapeChar style c := by
  have point : '\x00' ∉ codePointEscape c := by
    have digits := nul_notMem_toDigits (show 1 < 16 by decide) c.toNat
    simp [codePointEscape, digits]
  unfold escapeChar
  split
  case h_8 =>
    split
    · exact point
    · split
      · simpa using Ne.symm ‹¬c = '\x00'›
      · exact point
  all_goals try split
  all_goals decide

theorem plain_escaped (s : String) : Plain (escaped s) := by
  unfold escaped
  split
  · decide
  · refine .ofList fun nul => ?_
    obtain first | rest := List.mem_append.mp nul
    · exact nul_notMem_escapeChar _ _ first
    · obtain ⟨c, -, inside⟩ := List.mem_flatMap.mp rest
      exact nul_notMem_escapeChar _ c inside

end Lockstep.Text
