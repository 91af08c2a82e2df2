import Mathlib.Data.List.Dedup
import Lockstep.Proofs.Parameter.Entries
import Lockstep.Proofs.Parameter.Spelling

/-! A table is what came to pass with it.

The history of a table says which names were declared and with which kind, and what was
written under them since. It is all that a table holds: whatever is asked of the table
is answered from its history, and so is every operation on it.
-/

set_option autoImplicit false

namespace Lockstep.Parameter.Table

inductive Deed where
  | declared (name : String) (kind : Kind)
  | written (name : String) (value : Value)
  deriving DecidableEq, Repr

namespace Deed

def kind? (name : String) : Deed → Option Kind
  | declared other kind => if other = name then some kind else none
  | written .. => none

def value? (name : String) : Deed → Option Value
  | declared .. => none
  | written other value => if other = name then some value else none

def declaredName? : Deed → Option String
  | declared name _ => some name
  | written .. => none

variable (name other : String) (kind : Kind) (value : Value)

@[simp] theorem kind?_declared :
    (declared other kind).kind? name = if other = name then some kind else none := rfl

@[simp] theorem kind?_written : (written other value).kind? name = none := rfl

@[simp] theorem value?_declared : (declared other kind).value? name = none := rfl

@[simp] theorem value?_written :
    (written other value).value? name = if other = name then some value else none := rfl

end Deed

/-- All that came to pass with a table, the latest first. -/
abbrev Annals := List Deed

namespace Annals

def kind? (annals : Annals) (name : String) : Option Kind := annals.findSome? (Deed.kind? name)

/-- What was written last under a name since it was last declared. -/
def value? (annals : Annals) (name : String) : Option Value :=
  (annals.takeWhile fun deed => (deed.kind? name).isNone).findSome? (Deed.value? name)

/-- What a declared name stands for: what was written, or else its kind's zero. -/
def current? (annals : Annals) (name : String) : Option Value :=
  (annals.kind? name).map fun kind => (annals.value? name).getD (.zero kind)

def entry? (annals : Annals) (name : String) : Option Entry :=
  (annals.current? name).map fun value => ⟨name, value, (annals.value? name).isSome⟩

def names (annals : Annals) : List String := annals.filterMap Deed.declaredName?

/-- Why a value cannot be written under a name, in the table of a label. -/
def refusal? (label : String) (annals : Annals) (name : String) (value : Value) : Option Refusal :=
  match annals.kind? name with
  | none => some (.unknown name label)
  | some kind => if kind = value.kind then none else some (.mismatch name kind value.kind)

def apply (label : String) (annals : Annals) : List (String × Value) → Except Refusal Unit × Annals
  | [] => (.ok (), annals)
  | (name, value) :: rest =>
    match annals.refusal? label name value with
    | none => apply label (.written name value :: annals) rest
    | some refusal => (.error refusal, annals)

variable (annals : Annals) (name other : String) (kind : Kind) (value : Value)

@[simp] theorem kind?_declared : kind? (.declared name kind :: annals) other =
    if name = other then some kind else annals.kind? other := by
  by_cases same : name = other <;> simp [kind?, same]

@[simp] theorem kind?_written :
    kind? (.written name value :: annals) other = annals.kind? other := by
  simp [kind?, List.findSome?_cons]

@[simp] theorem value?_declared : value? (.declared name kind :: annals) other =
    if name = other then none else annals.value? other := by
  by_cases same : name = other <;> simp [value?, List.findSome?_cons, same]

@[simp] theorem value?_written : value? (.written name value :: annals) other =
    if name = other then some value else annals.value? other := by
  by_cases same : name = other <;> simp [value?, List.takeWhile_cons, same]

/-- A parameter that is declared again is as if it had never been written. -/
example : entry? [.declared "kp" .s64, .written "kp" (.double .zero), .declared "kp" .double] "kp" =
    some ⟨"kp", .s64 0, false⟩ := by decide

theorem mem_names_iff : name ∈ annals.names ↔ (annals.kind? name).isSome := by
  induction annals with
  | nil => simp [names, kind?]
  | cons deed rest ih =>
    cases deed with
    | declared other kind =>
      by_cases same : other = name
      · simp [names, Deed.declaredName?, same]
      · simpa [names, Deed.declaredName?, same, eq_comm (a := name)] using ih
    | written other value => simpa [names, Deed.declaredName?] using ih

theorem declared_of_accepted {annals : Annals} {label name : String} {value : Value}
    (accepted : annals.refusal? label name value = none) : annals.kind? name = some value.kind := by
  unfold refusal? at accepted
  split at accepted
  · cases accepted
  next kind declared =>
    split at accepted
    next same => rw [declared, same]
    next => cases accepted

end Annals

-- Operations, on a table and on its history.

inductive Op where
  | declare (name : String) (kind : Kind)
  | set (name : String) (value : Value)
  | apply (values : List (String × Value))
  deriving Repr

namespace Op

def work : Op → Work Bridge.Error Unit
  | declare name kind => (Work.declare name kind).adapt .parameter
  | set name value => (Work.set name value).adapt .table
  | apply values => (Work.apply values).adapt .table

/-- The operation told from history alone: how it is answered, and what comes to pass by it. -/
def told (label : String) : Op → Annals → Except Bridge.Error Unit × Annals
  | declare name kind, annals =>
    match checkName name with
    | .ok _ => (.ok (), .declared name kind :: annals)
    | .error cause => (.error (.parameter cause), annals)
  | set name value, annals =>
    match annals.refusal? label name value with
    | none => (.ok (), .written name value :: annals)
    | some refusal => (.error (.table refusal), annals)
  | apply values, annals =>
    ((annals.apply label values).1.mapError .table, (annals.apply label values).2)

end Op

def series {σ : Type} (step : Op → σ → Except Bridge.Error Unit × σ) :
    List Op → σ → List (Except Bridge.Error Unit) × σ
  | [], s => ([], s)
  | op :: rest, s =>
    let (answer, s) := step op s
    let (more, s) := series step rest s
    (answer :: more, s)

/-- A table and its history: each entry is the one that the history tells of. -/
structure Tells (label : String) (annals : Annals) (t : Table) : Prop where
  labelled : t.label = label
  ordered : t.Ordered
  lookup : ∀ name, t.lookup? name = annals.entry? name
  -- Nothing stays written under a name but what its declared kind allows.
  fits : ∀ name value, annals.value? name = some value → annals.kind? name = some value.kind

namespace Tells

variable {label : String} {annals : Annals} {t : Table} {name : String} {value : Value}

theorem empty (label : String) : Tells label [] (empty label) :=
  ⟨rfl, List.Pairwise.nil, fun _ => rfl, fun _ _ none => nomatch none⟩

theorem kind_current (tells : Tells label annals t) (name : String) :
    (annals.current? name).map Value.kind = annals.kind? name := by
  unfold Annals.current?
  rw [Option.map_map]
  cases declared : annals.kind? name with
  | none => rfl
  | some kind =>
    cases written : annals.value? name with
    | none => simp
    | some value =>
      have fits := tells.fits name value written
      rw [declared] at fits
      simpa using fits.symm

theorem kind_lookup (tells : Tells label annals t) (name : String) :
    (t.lookup? name).map Entry.kind = annals.kind? name := by
  rw [tells.lookup, ← tells.kind_current, Annals.entry?, Option.map_map]
  rfl

theorem set (tells : Tells label annals t) (name : String) (value : Value) :
    t.set name value = match annals.refusal? label name value with
      | none => .ok (t.written name value)
      | some refusal => .error refusal := by
  rw [Annals.refusal?, ← tells.kind_lookup]
  cases found : t.lookup? name with
  | none => simp [Table.set, found, tells.labelled]
  | some e =>
    by_cases same : e.kind = value.kind
    · simp [set_of_lookup found same, same]
    · simp [Table.set, found, same]

-- What one deed changes.

theorem declare (tells : Tells label annals t) (name : String) (kind : Kind) :
    Tells label (.declared name kind :: annals) (t.admitted name kind) := by
  constructor
  case labelled => exact tells.labelled
  case ordered => exact tells.ordered.admitted name kind
  case lookup =>
    intro other
    rw [lookup?_admitted, tells.lookup]
    by_cases same : name = other <;> simp [Annals.entry?, Annals.current?, same]
  case fits =>
    intro other value
    by_cases same : name = other
    · simp [same]
    · simpa [same] using tells.fits other value

theorem write (tells : Tells label annals t) (accepted : annals.refusal? label name value = none) :
    Tells label (.written name value :: annals) (t.written name value) := by
  have declared := Annals.declared_of_accepted accepted
  have there := tells.kind_lookup name
  rw [declared] at there
  obtain ⟨e, found, -⟩ := Option.map_eq_some_iff.mp there
  have wrote := tells.set name value
  rw [accepted] at wrote
  constructor
  case labelled => exact tells.labelled
  case ordered => exact (Ripens.set tells.ordered wrote).ordered tells.ordered
  case lookup =>
    intro other
    rw [lookup?_written found, tells.lookup]
    by_cases same : name = other
    · subst same
      simp [Annals.entry?, Annals.current?, declared]
    · simp [Annals.entry?, Annals.current?, same]
  case fits =>
    intro other value'
    by_cases same : name = other
    · subst same
      rintro written
      rw [Annals.value?_written, if_pos rfl] at written
      cases written
      rw [Annals.kind?_written, declared]
    · simpa [same] using tells.fits other value'

theorem apply (tells : Tells label annals t) (values : List (String × Value)) :
    (t.apply values).2 = (annals.apply label values).1 ∧
      Tells label (annals.apply label values).2 (t.apply values).1 := by
  induction values generalizing annals t with
  | nil => exact ⟨rfl, tells⟩
  | cons pair rest ih =>
    obtain ⟨name, value⟩ := pair
    rw [Table.apply, Annals.apply, tells.set]
    cases refused : annals.refusal? label name value with
    | some refusal => exact ⟨rfl, tells⟩
    | none => exact ih (tells.write refused)

/-- One operation is answered as the history tells, and the table after it is what it tells then. -/
theorem step (tells : Tells label annals t) (op : Op) :
    (op.work.run t).1 = (op.told label annals).1 ∧
      Tells label (op.told label annals).2 (op.work.run t).2 := by
  cases op with
  | declare name kind =>
    rw [Op.work, Op.told, Effect.run_adapt, run_declare, declare_eq]
    cases checkName name with
    | error cause => exact ⟨rfl, tells⟩
    | ok _ => exact ⟨rfl, tells.declare name kind⟩
  | set name value =>
    rw [Op.work, Op.told, Effect.run_adapt, run_set, tells.set]
    cases refused : annals.refusal? label name value with
    | some refusal => exact ⟨rfl, tells⟩
    | none => exact ⟨rfl, tells.write refused⟩
  | apply values =>
    rw [Op.work, Op.told, Effect.run_adapt, run_apply]
    obtain ⟨answer, after⟩ := tells.apply values
    exact ⟨congrArg (Except.mapError Bridge.Error.table) answer, after⟩

/-- So it is for operations one after the other, however each of them ends. -/
theorem series (tells : Tells label annals t) (ops : List Op) :
    (series Op.work ops t).1 = (series (Op.told label) ops annals).1 ∧
      Tells label (series (Op.told label) ops annals).2 (series Op.work ops t).2 := by
  induction ops generalizing annals t with
  | nil => exact ⟨rfl, tells⟩
  | cons op rest ih =>
    obtain ⟨answer, after⟩ := tells.step op
    obtain ⟨more, final⟩ := ih after
    exact ⟨congrArg₂ List.cons answer more, final⟩

end Tells

-- What is asked of a table.

/-- What a table gives for a name is what its history tells of it. -/
structure Reads (label : String) (annals : Annals) (t : Table) : Prop where
  lookup : ∀ name, t.lookup? name = annals.entry? name
  kind : ∀ name, (t.lookup? name).map Entry.kind = annals.kind? name
  get : ∀ name, t.get name = match annals.current? name with
    | some value => .ok value
    | none => .error (.unknown name label)
  -- The getter of the declared kind gives the value; the others give nothing.
  typed : ∀ name kind,
    t.typed? name kind = if annals.kind? name = some kind then annals.current? name else none

/-- A table lists the names that its history declares, once each and in the order of their bytes. -/
structure Lists (annals : Annals) (t : Table) : Prop where
  listed : ∀ name, name ∈ t.entries.map (·.name) ↔ name ∈ annals.names
  each : ∀ e ∈ t.entries, annals.entry? e.name = some e
  ascending : (t.entries.map fun e => Text.Utf8.encode e.name).Pairwise (· < ·)
  size : t.size = annals.names.dedup.length
  missing : ∀ name, name ∈ t.uninitialized ↔ name ∈ annals.names ∧ annals.value? name = none
  missingAscending : (t.uninitialized.map Text.Utf8.encode).Pairwise (· < ·)
  complete : t.isComplete = true ↔ t.uninitialized = []
  required : t.requireComplete = .ok () ↔ t.uninitialized = []

/-- What a table takes, and that it stays as it was when it does not. -/
structure Takes (label : String) (annals : Annals) (t : Table) : Prop where
  declares : ∀ name kind, ((Work.declare name kind).run t).1 = .ok () ↔ Proper name
  keeps : ∀ name kind e,
    ((Work.declare name kind).run t).1 = .error e → ((Work.declare name kind).run t).2 = t
  sets : ∀ name value, (Work.set name value).run t = match annals.kind? name with
    | none => (.error (.unknown name label), t)
    | some kind =>
      if kind = value.kind then (.ok (), t.written name value)
      else (.error (.mismatch name kind value.kind), t)

namespace Tells

variable {label : String} {annals : Annals} {t : Table}

theorem reads (tells : Tells label annals t) : Reads label annals t := by
  constructor
  case lookup => exact tells.lookup
  case kind => exact tells.kind_lookup
  case get =>
    intro name
    rw [Table.get, tells.lookup, Annals.entry?, tells.labelled]
    cases annals.current? name <;> rfl
  case typed =>
    intro name kind
    rw [typed?_eq, ← tells.kind_current, tells.lookup, Annals.entry?]
    cases annals.current? name with
    | none => simp
    | some value => by_cases same : value.kind = kind <;> simp [Entry.kind, same]

theorem declared_iff (tells : Tells label annals t) (name : String) :
    (t.lookup? name).isSome ↔ name ∈ annals.names := by
  rw [annals.mem_names_iff, ← tells.kind_lookup, Option.isSome_map]

theorem lists (tells : Tells label annals t) : Lists annals t := by
  have listed : ∀ name, name ∈ t.entries.map (·.name) ↔ name ∈ annals.names := by
    intro name
    rw [tells.ordered.mem_names_iff, tells.declared_iff]
  constructor
  case listed => exact listed
  case each =>
    intro e member
    rw [← tells.lookup]
    exact tells.ordered.mem_iff.mp member
  case ascending =>
    have inOrder := pairwise_encode tells.ordered.names
    rwa [List.map_map] at inOrder
  case size =>
    have same : (t.entries.map (·.name)).Perm annals.names.dedup := by
      apply (List.perm_ext_iff_of_nodup tells.ordered.nodup annals.names.nodup_dedup).mpr
      intro name
      rw [listed, List.mem_dedup]
    rw [← same.length_eq, List.length_map]
    rfl
  case missing =>
    intro name
    rw [tells.ordered.mem_uninitialized_iff, ← tells.declared_iff, tells.lookup]
    unfold Annals.entry?
    cases annals.current? name <;> simp
  case missingAscending => exact pairwise_encode tells.ordered.uninitialized
  case complete => exact isComplete_iff
  case required =>
    unfold requireComplete
    split
    next none => simpa using none
    next some => simpa using some

theorem takes (tells : Tells label annals t) : Takes label annals t := by
  constructor
  case declares =>
    intro name kind
    rw [run_declare, declare_eq, ← checkName_eq_ok_iff]
    cases checkName name <;> simp [settled, Except.map]
  case keeps =>
    intro name kind e
    rw [run_declare, declare_eq]
    cases checkName name <;> simp [settled, Except.map]
  case sets =>
    intro name value
    rw [run_set, tells.set, Annals.refusal?]
    cases annals.kind? name with
    | none => rfl
    | some kind => by_cases same : kind = value.kind <;> simp [same, settled]

end Tells

/-- A table that was empty is, after any operations, what its history makes of it: every operation
was answered as the history told at that time, those that fail included; and each lookup,
getter and list, and the answer to what comes next, is told by the history that there is in the
end. -/
theorem table_is_its_annals (label : String) (ops : List Op) :
    (series Op.work ops (empty label)).1 = (series (Op.told label) ops []).1 ∧
    Reads label (series (Op.told label) ops []).2 (series Op.work ops (empty label)).2 ∧
    Lists (series (Op.told label) ops []).2 (series Op.work ops (empty label)).2 ∧
    Takes label (series (Op.told label) ops []).2 (series Op.work ops (empty label)).2 := by
  obtain ⟨answers, tells⟩ := (Tells.empty label).series ops
  exact ⟨answers, tells.reads, tells.lists, tells.takes⟩

end Lockstep.Parameter.Table
