import Lockstep.Bridge.Error
import Lockstep.Proofs.Effect
import Lockstep.Proofs.Parameter.Declared
import Lockstep.Proofs.Text.Faithful

/-! A table as its lookups show it, and the work that changes it in place.

Which entries a table in order has is what its lookups say. Each operation is one
run over the table as it stands; one that fails leaves every entry alone.
-/

set_option autoImplicit false

namespace Lockstep.Parameter.Table

variable {t : Table} {name other : String} {e : Entry} {value : Value}

-- Entries put in their place.

theorem find?_insertEntry (e : Entry) (entries : List Entry) (other : String) :
    (insertEntry e entries).find? (·.name == other) =
      if e.name = other then some e else entries.find? (·.name == other) := by
  induction entries with
  | nil =>
    by_cases here : e.name = other <;> simp [insertEntry, here]
  | cons head rest ih =>
    rw [insertEntry]
    by_cases same : e.name = head.name
    · rw [if_pos same]
      by_cases here : e.name = other
      · simp [here]
      · have missed : head.name ≠ other := same ▸ here
        simp [here, missed]
    rw [if_neg same]
    split
    · by_cases here : e.name = other <;> simp [here]
    · by_cases here : head.name = other
      · have elsewhere : e.name ≠ other := fun named => same (named.trans here.symm)
        simp [here, elsewhere]
      · simpa [here] using ih

theorem pairwise_insertEntry (e : Entry) {entries : List Entry}
    (ordered : entries.Pairwise fun a b => a.name < b.name) :
    (insertEntry e entries).Pairwise fun a b => a.name < b.name := by
  induction entries with
  | nil => exact List.pairwise_singleton _ e
  | cons head rest ih =>
    obtain ⟨first, ordered⟩ := List.pairwise_cons.mp ordered
    rw [insertEntry]
    by_cases same : e.name = head.name
    · rw [if_pos same, List.pairwise_cons]
      exact ⟨fun a member => same ▸ first a member, ordered⟩
    rw [if_neg same]
    split
    next before =>
      refine List.pairwise_cons.mpr ⟨?_, List.pairwise_cons.mpr ⟨first, ordered⟩⟩
      intro a member
      obtain rfl | later := List.mem_cons.mp member
      · exact before
      · exact String.lt_trans before (first a later)
    next notBefore =>
      refine List.pairwise_cons.mpr ⟨?_, ih ordered⟩
      intro a member
      obtain rfl | later := mem_insertEntry member
      · have atMost : head.name ≤ a.name := String.not_lt.mp notBefore
        exact Std.lt_of_le_of_ne atMost (Ne.symm same)
      · exact first a later

def admitted (t : Table) (name : String) (kind : Kind) : Table :=
  { t with entries := insertEntry ⟨name, .zero kind, false⟩ t.entries }

theorem lookup?_admitted (t : Table) (name : String) (kind : Kind) (other : String) :
    (t.admitted name kind).lookup? other =
      if name = other then some ⟨name, .zero kind, false⟩ else t.lookup? other :=
  find?_insertEntry _ _ other

theorem ordered_iff : t.Ordered ↔ t.entries.Pairwise fun a b => a.name < b.name := by
  unfold Ordered declared
  rw [List.pairwise_map]

theorem Ordered.admitted (ordered : t.Ordered) (name : String) (kind : Kind) :
    (t.admitted name kind).Ordered :=
  ordered_iff.mpr (pairwise_insertEntry _ (ordered_iff.mp ordered))

theorem lookup?_written (found : t.lookup? name = some e) (value : Value) (other : String) :
    (t.written name value).lookup? other =
      if name = other then some ⟨name, value, true⟩ else t.lookup? other := by
  by_cases same : name = other
  · subst same
    rw [lookup?_written_self found, if_pos rfl]
  · rw [lookup?_written_other (Ne.symm same), if_neg same]

theorem declare_eq (t : Table) (name : String) (kind : Kind) :
    t.declare name kind = (checkName name).map fun _ => t.admitted name kind := by
  unfold declare
  cases checkName name <;> rfl

-- What there is, told by lookups.

theorem Ordered.mem_iff (ordered : t.Ordered) : e ∈ t.entries ↔ t.lookup? e.name = some e := by
  constructor
  · intro member
    cases found : t.lookup? e.name with
    | none =>
      have missed := List.find?_eq_none.mp found e member
      exact absurd (beq_self_eq_true e.name) missed
    | some e' => rw [ordered.eq_of_name found member rfl]
  · exact List.mem_of_find?_eq_some

theorem Ordered.mem_names_iff (ordered : t.Ordered) :
    name ∈ t.entries.map (·.name) ↔ (t.lookup? name).isSome := by
  rw [List.mem_map, Option.isSome_iff_exists]
  constructor
  · rintro ⟨e, member, rfl⟩
    exact ⟨e, ordered.mem_iff.mp member⟩
  · rintro ⟨e, found⟩
    exact ⟨e, List.mem_of_find?_eq_some found, lookup?_name found⟩

theorem Ordered.mem_uninitialized_iff (ordered : t.Ordered) :
    name ∈ t.uninitialized ↔ ∃ e, t.lookup? name = some e ∧ e.initialized = false := by
  rw [mem_uninitialized]
  constructor
  · rintro ⟨e, member, rfl, missing⟩
    exact ⟨e, ordered.mem_iff.mp member, missing⟩
  · rintro ⟨e, found, missing⟩
    exact ⟨e, List.mem_of_find?_eq_some found, lookup?_name found, missing⟩

theorem isComplete_iff : t.isComplete = true ↔ t.uninitialized = [] := by
  simp [isComplete, uninitialized, List.filter_eq_nil_iff]

theorem pairwise_encode {names : List String} (ordered : names.Pairwise (· < ·)) :
    (names.map Text.Utf8.encode).Pairwise (· < ·) := by
  rw [List.pairwise_map]
  exact ordered.imp Text.Utf8.encode_lt_iff.mpr

theorem Ordered.nodup (ordered : t.Ordered) : (t.entries.map (·.name)).Nodup := by
  apply ordered.names.imp
  rintro a b before rfl
  exact String.lt_irrefl a before

-- Work in place.

/-- Work on a table that may fail and keeps what was done before it failed. -/
abbrev Work (ε : Type) := ExceptT ε (StateM Table)

namespace Work

def amend (name : String) (f : Entry → Entry) : Work Refusal Unit :=
  modify fun t => { t with entries := t.entries.map fun e => if e.name = name then f e else e }

def declare (name : String) (kind : Kind) : Work Error Unit := do
  checkName name
  modify fun t => { t with entries := insertEntry ⟨name, .zero kind, false⟩ t.entries }

/-- The value goes in first, then the mark that it is there. -/
def set (name : String) (value : Value) : Work Refusal Unit := do
  let t ← MonadState.get
  match t.lookup? name with
  | none => throw (.unknown name t.label)
  | some e =>
    if e.kind ≠ value.kind then throw (.mismatch name e.kind value.kind)
    amend name fun e => { e with value }
    amend name fun e => { e with initialized := true }

def apply : List (String × Value) → Work Refusal Unit
  | [] => pure ()
  | (name, value) :: rest => do
    set name value
    apply rest

end Work

def settled {ε : Type} (t : Table) : Except ε Table → Except ε Unit × Table
  | .ok t' => (.ok (), t')
  | .error e => (.error e, t)

theorem run_declare (t : Table) (name : String) (kind : Kind) :
    (Work.declare name kind).run t = t.settled (t.declare name kind) := by
  rw [declare_eq, Work.declare]
  cases checkName name <;> rfl

theorem run_amend_twice (t : Table) (name : String) (value : Value) :
    (do
      Work.amend name fun e => { e with value }
      Work.amend name fun e => { e with initialized := true }).run t =
      (.ok (), t.written name value) := by
  simp only [Work.amend, Effect.run_bind, Effect.run_modify, written, List.map_map]
  congr 3
  funext e
  by_cases named : e.name = name <;> simp [named]

theorem run_set (t : Table) (name : String) (value : Value) :
    (Work.set name value).run t = t.settled (t.set name value) := by
  unfold Work.set Table.set
  simp only [Effect.run_bind, Effect.run_get]
  cases t.lookup? name with
  | none => rfl
  | some e =>
    by_cases same : e.kind = value.kind
    case neg => simp [same, settled]
    simp only [same, ne_eq, not_true_eq_false, if_false, if_true]
    exact run_amend_twice t name value

theorem run_apply (t : Table) (values : List (String × Value)) :
    (Work.apply values).run t = ((t.apply values).2, (t.apply values).1) := by
  induction values generalizing t with
  | nil => rfl
  | cons pair rest ih =>
    obtain ⟨name, value⟩ := pair
    rw [Work.apply, Table.apply, Effect.run_bind, run_set]
    cases t.set name value with
    | error refusal => rfl
    | ok between => exact ih between

end Lockstep.Parameter.Table
