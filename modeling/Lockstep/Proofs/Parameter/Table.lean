import Lockstep.Parameter.Table
import Lockstep.Proofs.Effect

/-! Looking parameters up in a table and writing them. -/

set_option autoImplicit false

namespace Lockstep.Parameter.Table

variable {t : Table} {name : String} {e : Entry} {value : Value}

def written (t : Table) (name : String) (value : Value) : Table :=
  { t with entries := t.entries.map fun e => if e.name = name then ⟨name, value, true⟩ else e }

theorem lookup?_name (found : t.lookup? name = some e) : e.name = name := by
  have same := List.find?_some found
  exact beq_iff_eq.mp same

theorem lookup?_written_self (found : t.lookup? name = some e) (value : Value) :
    (t.written name value).lookup? name = some ⟨name, value, true⟩ := by
  obtain ⟨label, entries⟩ := t
  unfold lookup? written at *
  dsimp only at *
  induction entries with
  | nil => cases found
  | cons head rest ih =>
    by_cases same : head.name = name
    · simp [same]
    · have there : (rest.find? fun e => e.name == name) = some e := by
        simpa [same] using found
      simpa [same] using ih there

theorem lookup?_written_other {other : String} (differs : other ≠ name) (value : Value) :
    (t.written name value).lookup? other = t.lookup? other := by
  obtain ⟨label, entries⟩ := t
  unfold lookup? written
  dsimp only
  induction entries with
  | nil => rfl
  | cons head rest ih =>
    by_cases same : head.name = name
    · have missed : (name == other) = false := by simpa using differs.symm
      rw [List.map_cons, if_pos same, List.find?_cons, List.find?_cons, same, missed]
      exact ih
    · rw [List.map_cons, if_neg same, List.find?_cons, List.find?_cons]
      split
      · rfl
      · exact ih

/-- All that is declared has a name that requests can carry. -/
def Named (t : Table) : Prop := ∀ e ∈ t.entries, checkName e.name = .ok ()

theorem mem_insertEntry {entries : List Entry} {e' : Entry}
    (member : e' ∈ insertEntry e entries) : e' = e ∨ e' ∈ entries := by
  induction entries with
  | nil => exact .inl (List.mem_singleton.mp member)
  | cons head rest ih =>
    unfold insertEntry at member
    split at member
    · obtain here | there := List.mem_cons.mp member
      · exact .inl here
      · exact .inr (List.mem_cons_of_mem _ there)
    split at member
    · exact List.mem_cons.mp member
    · obtain here | there := List.mem_cons.mp member
      · exact .inr (here ▸ List.mem_cons_self)
      · exact (ih there).imp_right (List.mem_cons_of_mem _)

theorem named_empty (label : String) : (empty label).Named :=
  fun _ none => absurd none List.not_mem_nil

theorem Named.declare {t' : Table} (named : t.Named) {kind : Kind}
    (declared : t.declare name kind = .ok t') : t'.Named := by
  unfold Table.declare at declared
  cases checked : checkName name with
  | error cause =>
    rw [checked] at declared
    cases declared
  | ok _ =>
    rw [checked] at declared
    cases declared
    intro e member
    obtain rfl | old := mem_insertEntry member
    · exact checked
    · exact named e old

theorem Named.declareAll {t' : Table} (named : t.Named) {parameters : List (String × Kind)}
    (declared : t.declareAll parameters = .ok t') : t'.Named := by
  induction parameters generalizing t with
  | nil =>
    cases declared
    exact named
  | cons parameter rest ih =>
    obtain ⟨name, kind⟩ := parameter
    obtain ⟨between, first, rest⟩ := Effect.bind_ok declared
    exact ih (named.declare first) rest

theorem Named.written (named : t.Named) (name : String) (value : Value) :
    (t.written name value).Named := by
  intro e member
  obtain ⟨old, inside, rfl⟩ := List.mem_map.mp member
  have checked := named old inside
  split
  next same => rwa [same] at checked
  next => exact checked

theorem get_of_lookup (found : t.lookup? name = some e) : t.get name = .ok e.value := by
  rw [get, found]

theorem set_of_lookup (found : t.lookup? name = some e) (same : e.kind = value.kind) :
    t.set name value = .ok (t.written name value) := by
  simp only [set, found, same, if_true]
  rfl

end Lockstep.Parameter.Table
