import Mathlib.Data.List.Perm.Subperm
import Lockstep.Proofs.Parameter.Declared

/-! Lists of values that have one for each parameter of a table, and nothing else.

Such values can all be written, one after the other and in any order, and leave
no parameter that was never written.
-/

set_option autoImplicit false

namespace Lockstep.Parameter.Table

/-- Each parameter is given a value of its kind, and nothing else is named. -/
structure Covers (t : Table) (values : List (String × Value)) : Prop where
  only : ∀ pair ∈ values, (pair.1, pair.2.kind) ∈ t.declared
  every : ∀ parameter ∈ t.declared, parameter.1 ∈ values.map (·.1)

instance (t : Table) (values : List (String × Value)) : Decidable (t.Covers values) :=
  decidable_of_iff ((∀ pair ∈ values, (pair.1, pair.2.kind) ∈ t.declared) ∧
      ∀ parameter ∈ t.declared, parameter.1 ∈ values.map (·.1))
    ⟨fun ⟨only, every⟩ => ⟨only, every⟩, fun ⟨only, every⟩ => ⟨only, every⟩⟩

variable {t t' : Table} {name : String} {value : Value} {values : List (String × Value)}

theorem Ordered.set_declared (ordered : t.Ordered) (declares : (name, value.kind) ∈ t.declared) :
    t.set name value = .ok (t.written name value) := by
  obtain ⟨e, member, same⟩ := List.mem_map.mp declares
  obtain ⟨named, kind⟩ := Prod.mk.inj same
  have there : (t.lookup? name).isSome :=
    List.find?_isSome.mpr ⟨e, member, beq_iff_eq.mpr named⟩
  obtain ⟨e', found⟩ := Option.isSome_iff_exists.mp there
  obtain rfl := ordered.eq_of_name found member named
  exact set_of_lookup found kind

theorem mem_uninitialized_written {other : String} :
    other ∈ (t.written name value).uninitialized ↔ other ∈ t.uninitialized ∧ other ≠ name := by
  simp only [mem_uninitialized, written, List.mem_map]
  constructor
  · rintro ⟨_, ⟨e, member, rfl⟩, named, missing⟩
    by_cases same : e.name = name
    · rw [if_pos same] at missing
      cases missing
    · rw [if_neg same] at named missing
      exact ⟨⟨e, member, named, missing⟩, named ▸ same⟩
  · rintro ⟨⟨e, member, named, missing⟩, differs⟩
    refine ⟨e, ⟨e, member, if_neg ?_⟩, named, missing⟩
    rw [named]
    exact differs

theorem Ordered.apply_declared (ordered : t.Ordered)
    (declares : ∀ pair ∈ values, (pair.1, pair.2.kind) ∈ t.declared) :
    ∃ t', t.apply values = (t', .ok ()) ∧
      ∀ other, other ∈ t'.uninitialized → other ∈ t.uninitialized ∧ other ∉ values.map (·.1) := by
  induction values generalizing t with
  | nil => exact ⟨t, rfl, fun other missing => ⟨missing, List.not_mem_nil⟩⟩
  | cons pair rest ih =>
    obtain ⟨name, value⟩ := pair
    have wrote : t.set name value = .ok (t.written name value) :=
      ordered.set_declared (declares _ List.mem_cons_self)
    have ripens := Ripens.set ordered wrote
    obtain ⟨t', applied, missing⟩ := ih (ripens.ordered ordered) fun pair member => by
      rw [ripens.declared]
      exact declares pair (List.mem_cons_of_mem _ member)
    refine ⟨t', ?_, fun other lacks => ?_⟩
    · rw [apply, wrote]
      exact applied
    · obtain ⟨before, later⟩ := missing other lacks
      obtain ⟨first, differs⟩ := mem_uninitialized_written.mp before
      refine ⟨first, fun inside => ?_⟩
      obtain here | there := List.mem_cons.mp inside
      · exact differs here
      · exact later there

/-- Values that cover a table make it complete. -/
theorem Covers.apply (covers : t.Covers values) (ordered : t.Ordered) :
    ∃ t', t.apply values = (t', .ok ()) ∧ t'.requireComplete = .ok () := by
  obtain ⟨t', applied, missing⟩ := ordered.apply_declared covers.only
  have none : t'.uninitialized = [] := by
    apply List.eq_nil_iff_forall_not_mem.mpr
    intro name lacks
    obtain ⟨before, unnamed⟩ := missing name lacks
    obtain ⟨e, member, rfl, -⟩ := mem_uninitialized.mp before
    exact unnamed (covers.every _ (List.mem_map_of_mem member))
  refine ⟨t', applied, ?_⟩
  rw [requireComplete, none]
  rfl

theorem Covers.length_le (covers : t.Covers values) (distinct : (values.map (·.1)).Nodup) :
    values.length ≤ t.declared.length := by
  have declared : values.map (·.1) ⊆ t.declared.map (·.1) := by
    intro name member
    obtain ⟨pair, inside, rfl⟩ := List.mem_map.mp member
    exact List.mem_map_of_mem (covers.only pair inside)
  have few := (List.Nodup.subperm distinct declared).length_le
  rw [List.length_map, List.length_map] at few
  exact few

end Lockstep.Parameter.Table
