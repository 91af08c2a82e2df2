import Lockstep.Bridge.Responder
import Mathlib.Data.List.Nodup
import Lockstep.Proofs.Parameter.Table

/-! What becomes of a table as values are written into it.

The names that are declared, their order and their kinds stay, and what was
written once stays written. So a getter that fits the declaration of a parameter
always finds it.
-/

set_option autoImplicit false

namespace Lockstep.Parameter.Table

def declared (t : Table) : List (String × Kind) := t.entries.map fun e => (e.name, e.kind)

def Ordered (t : Table) : Prop := t.declared.Pairwise fun a b => a.1 < b.1

instance (t : Table) : Decidable t.Ordered := inferInstanceAs (Decidable (List.Pairwise _ _))

/-- A table at a later time: the same parameters, and none written less. -/
structure Ripens (t t' : Table) : Prop where
  label : t'.label = t.label
  declared : t'.declared = t.declared
  complete : t.isComplete = true → t'.isComplete = true

variable {t t' : Table} {name : String} {value : Value} {e : Entry}

namespace Ripens

theorem refl (t : Table) : t.Ripens t := ⟨rfl, rfl, id⟩

theorem trans {t'' : Table} (first : t.Ripens t') (second : t'.Ripens t'') : t.Ripens t'' :=
  ⟨second.label.trans first.label, second.declared.trans first.declared,
    fun complete => second.complete (first.complete complete)⟩

theorem ordered (ripens : t.Ripens t') (ordered : t.Ordered) : t'.Ordered := by
  unfold Ordered
  rw [ripens.declared]
  exact ordered

end Ripens

theorem Ordered.names (ordered : t.Ordered) : (t.entries.map (·.name)).Pairwise (· < ·) := by
  unfold Ordered declared at ordered
  rw [List.pairwise_map] at ordered ⊢
  exact ordered

theorem Ordered.eq_of_name (ordered : t.Ordered) (found : t.lookup? name = some e) {e' : Entry}
    (member : e' ∈ t.entries) (named : e'.name = name) : e' = e := by
  have distinct : (t.entries.map (·.name)).Nodup := by
    apply List.Pairwise.imp _ ordered.names
    rintro a b before rfl
    exact String.lt_irrefl a before
  apply List.inj_on_of_nodup_map distinct member (List.mem_of_find?_eq_some found)
  rw [named, lookup?_name found]

theorem set_eq_ok (wrote : t.set name value = .ok t') :
    ∃ e, t.lookup? name = some e ∧ e.kind = value.kind ∧ t' = t.written name value := by
  unfold set at wrote
  split at wrote
  · cases wrote
  next e found =>
    split at wrote
    next same =>
      cases wrote
      exact ⟨e, found, same, rfl⟩
    next => cases wrote

theorem Ripens.set (ordered : t.Ordered) (wrote : t.set name value = .ok t') : t.Ripens t' := by
  obtain ⟨e, found, same, rfl⟩ := set_eq_ok wrote
  constructor
  case label => rfl
  case declared =>
    unfold Table.declared written
    rw [List.map_map]
    apply List.map_congr_left
    intro e' member
    by_cases named : e'.name = name
    · obtain rfl := ordered.eq_of_name found member named
      simp [named, Entry.kind] at same ⊢
      exact same.symm
    · simp [named]
  case complete =>
    intro complete
    unfold isComplete written at *
    rw [List.all_map, List.all_eq_true]
    intro e' member
    simp only [Function.comp_apply]
    split
    · rfl
    · exact List.all_eq_true.mp complete e' member

theorem Ripens.apply (ordered : t.Ordered) (values : List (String × Value)) :
    t.Ripens (t.apply values).1 := by
  induction values generalizing t with
  | nil => exact .refl t
  | cons pair rest ih =>
    obtain ⟨name, value⟩ := pair
    unfold Table.apply
    split
    next t' wrote =>
      have first := Ripens.set ordered wrote
      exact first.trans (ih (first.ordered ordered))
    next => exact .refl t

theorem apply_refused {sent : List (String × Value)} {name : String} {value : Value}
    {refusal : Refusal} (applied : t.apply sent = (t', .ok ()))
    (refused : t'.set name value = .error refusal) (rest : List (String × Value)) :
    t.apply (sent ++ (name, value) :: rest) = (t', .error refusal) := by
  induction sent generalizing t with
  | nil =>
    cases applied
    rw [List.nil_append, apply, refused]
  | cons pair sent ih =>
    obtain ⟨name', value'⟩ := pair
    rw [apply] at applied
    rw [List.cons_append, apply]
    cases wrote : t.set name' value' with
    | error refusal =>
      rw [wrote] at applied
      cases applied
    | ok between =>
      rw [wrote] at applied
      exact ih applied

theorem Ripens.loadFile (ordered : t.Ordered) (path : String) (file : Config.File) :
    t.Ripens (Bridge.loadFile t path file).2.1 := by
  unfold Bridge.loadFile
  split
  next => exact .refl t
  next values loaded =>
    have applied := Ripens.apply ordered values
    split
    next t' refusal ended =>
      rw [ended] at applied
      exact applied
    next t' ended =>
      rw [ended] at applied
      exact applied

-- What a table still lacks.

theorem requireComplete_of_complete (complete : t.isComplete = true) :
    t.requireComplete = .ok () := by
  have none : t.uninitialized = [] := by
    simpa [uninitialized, isComplete, List.filter_eq_nil_iff] using complete
  simp [requireComplete, none]

theorem requireComplete_of_incomplete (incomplete : t.isComplete = false) :
    t.requireComplete = .error (.incomplete t.label t.uninitialized) := by
  have some : t.uninitialized ≠ [] := by
    intro none
    have complete : t.isComplete = true := by
      simpa [uninitialized, isComplete, List.filter_eq_nil_iff] using none
    rw [complete] at incomplete
    cases incomplete
  simp [requireComplete, some]

theorem mem_uninitialized : name ∈ t.uninitialized ↔
    ∃ e ∈ t.entries, e.name = name ∧ e.initialized = false := by
  simp only [uninitialized, List.mem_map, List.mem_filter, Bool.not_eq_true']
  constructor
  · rintro ⟨e, ⟨member, missing⟩, named⟩
    exact ⟨e, member, named, missing⟩
  · rintro ⟨e, member, named, missing⟩
    exact ⟨e, ⟨member, missing⟩, named⟩

theorem Ordered.uninitialized (ordered : t.Ordered) : t.uninitialized.Pairwise (· < ·) := by
  unfold Table.uninitialized
  exact List.Pairwise.sublist (List.filter_sublist.map _) ordered.names

-- Getters that fit a declaration.

/-- What the getter of a kind gives for a name. -/
def typed? (t : Table) (name : String) : Kind → Option Value
  | .float => (t.float? name).map .float
  | .double => (t.double? name).map .double
  | .s64 => (t.s64? name).map .s64
  | .vec3Double => (t.vec3Double? name).map .vec3Double
  | .vec3Float => (t.vec3Float? name).map .vec3Float

theorem typed?_eq (t : Table) (name : String) (kind : Kind) :
    t.typed? name kind = (t.lookup? name).bind fun e => if e.kind = kind then some e.value else none := by
  cases kind <;>
    simp only [typed?, float?, double?, s64?, vec3Double?, vec3Float?] <;>
    cases t.lookup? name with
    | none => rfl
    | some e =>
      obtain ⟨_, value, _⟩ := e
      cases value <;> rfl

theorem lookup?_of_declared {kind : Kind}
    (declares : t.declared.find? (·.1 == name) = some (name, kind)) :
    ∃ e, t.lookup? name = some e ∧ e.kind = kind := by
  unfold declared at declares
  rw [List.find?_map] at declares
  obtain ⟨e, found, same⟩ := Option.map_eq_some_iff.mp declares
  exact ⟨e, found, (Prod.mk.inj same).2⟩

/-- The getter of the kind that a parameter is declared with finds it. -/
theorem typed?_of_declared {kind : Kind}
    (declares : t.declared.find? (·.1 == name) = some (name, kind)) :
    ∃ value, t.typed? name kind = some value := by
  obtain ⟨e, found, same⟩ := lookup?_of_declared declares
  exact ⟨e.value, by rw [typed?_eq, found, Option.bind_some, if_pos same]⟩

theorem ordered_robot : robot.Ordered := by decide +kernel

end Lockstep.Parameter.Table
