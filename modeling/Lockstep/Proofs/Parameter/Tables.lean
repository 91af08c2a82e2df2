import Lockstep.Parameter.Kind
import Lockstep.Proofs.Parameter.Table

/-! The two tables of a robot as one store of values, and what a history of writes makes of it. -/

set_option autoImplicit false

namespace Lockstep.Parameter

structure Tables where
  robot : Table
  user? : Option Table
  deriving DecidableEq

structure Send where
  user : Bool
  name : String
  value : Value
  deriving DecidableEq

namespace Tables

variable (tables : Tables)

def table? : Bool → Option Table
  | true => tables.user?
  | false => some tables.robot

def value? (user : Bool) (name : String) : Option Value :=
  ((tables.table? user).bind (·.lookup? name)).map (·.value)

def kind? (user : Bool) (name : String) : Option Kind := (tables.value? user name).map (·.kind)

def put (user : Bool) (name : String) (value : Value) : Tables :=
  match user with
  | true => { tables with user? := tables.user?.map (·.written name value) }
  | false => { tables with robot := tables.robot.written name value }

/-- A request that a robot serves: the value that it reports, and the tables then.
Without a table of its own a controller has any value repeated. -/
def request (kind : RequestKind) (name : String) (value : Value) : Option (Value × Tables) :=
  match tables.table? kind.user with
  | none => some (value, tables)
  | some t =>
    match t.lookup? name with
    | none => none
    | some e =>
      if e.kind ≠ value.kind then none
      else if kind.writes then some (value, tables.put kind.user name value)
      else some (e.value, tables)

variable {tables} {kind : RequestKind} {user : Bool} {name : String} {value : Value}

theorem request_of_none (none : tables.table? kind.user = none) (name : String) (value : Value) :
    tables.request kind name value = some (value, tables) := by
  rw [request, none]

theorem request_of_declared {old : Value} (has : tables.value? kind.user name = some old)
    (same : old.kind = value.kind) : tables.request kind name value =
      some (if kind.writes then (value, tables.put kind.user name value) else (old, tables)) := by
  obtain ⟨e, inside, rfl⟩ := Option.map_eq_some_iff.mp has
  obtain ⟨t, own, found⟩ := Option.bind_eq_some_iff.mp inside
  have right : e.kind = value.kind := same
  simp only [request, own, found, right, ne_eq, not_true, if_false]
  split
  · rfl
  · rfl

theorem declared_of_request (has : (tables.table? kind.user).isSome) {served : Value × Tables}
    (went : tables.request kind name value = some served) :
    ∃ old, tables.value? kind.user name = some old ∧ old.kind = value.kind := by
  obtain ⟨t, own⟩ := Option.isSome_iff_exists.mp has
  simp only [request, own] at went
  split at went
  · cases went
  next e found =>
    split at went
    · cases went
    next same =>
      refine ⟨e.value, ?_, Decidable.not_not.mp same⟩
      simp [value?, own, found]

theorem isSome_request_iff (has : (tables.table? kind.user).isSome) :
    (tables.request kind name value).isSome ↔ tables.kind? kind.user name = some value.kind := by
  constructor
  · intro went
    obtain ⟨served, went⟩ := Option.isSome_iff_exists.mp went
    obtain ⟨old, declared, same⟩ := declared_of_request has went
    rw [kind?, declared, Option.map_some, same]
  · intro declared
    obtain ⟨old, declared, same⟩ := Option.map_eq_some_iff.mp declared
    rw [request_of_declared declared same]
    rfl

def Named (tables : Tables) : Prop := ∀ user t, tables.table? user = some t → t.Named

theorem Named.of_kind? {k : Kind} (named : tables.Named)
    (declared : tables.kind? user name = some k) : checkName name = .ok () := by
  obtain ⟨old, has, -⟩ := Option.map_eq_some_iff.mp declared
  obtain ⟨e, inside, -⟩ := Option.map_eq_some_iff.mp has
  obtain ⟨t, own, found⟩ := Option.bind_eq_some_iff.mp inside
  have checked := named user t own e (List.mem_of_find?_eq_some found)
  rwa [Table.lookup?_name found] at checked

theorem isSome_table?_put (user' : Bool) (value : Value) :
    ((tables.put user name value).table? user').isSome = (tables.table? user').isSome := by
  cases user <;> cases user' <;> simp [put, table?]

theorem value?_put {old : Value} (has : tables.value? user name = some old) (value : Value)
    (user' : Bool) (name' : String) :
    (tables.put user name value).value? user' name' =
      if user' = user ∧ name' = name then some value else tables.value? user' name' := by
  have inside : ∀ t, tables.table? user = some t →
      ((t.written name value).lookup? name').map (·.value) =
        if name' = name then some value else (t.lookup? name').map (·.value) := by
    intro t own
    split
    next same =>
      rw [value?, own, Option.bind_some] at has
      obtain ⟨e, found, -⟩ := Option.map_eq_some_iff.mp has
      rw [same, Table.lookup?_written_self found]
      rfl
    next differs => rw [Table.lookup?_written_other differs]
  cases user with
  | false =>
    cases user' with
    | false => simpa [value?, put, table?] using inside tables.robot rfl
    | true => simp [value?, put, table?]
  | true =>
    cases user' with
    | false => simp [value?, put, table?]
    | true =>
      cases own : tables.user? with
      | none => simp [value?, table?, own] at has
      | some t => simpa [value?, put, table?, own] using inside t own

def replace (tables : Tables) : Bool → Table → Tables
  | true, t => { tables with user? := some t }
  | false, t => { tables with robot := t }

def lookup? (tables : Tables) (user : Bool) (name : String) : Option Entry :=
  (tables.table? user).bind (·.lookup? name)

variable {t : Table} {e : Entry}

theorem replace_own (own : tables.table? user = some t) : tables.replace user t = tables := by
  obtain ⟨robot, user?⟩ := tables
  cases user with
  | true =>
    cases own
    rfl
  | false =>
    cases own
    rfl

theorem replace_written (own : tables.table? user = some t) (name : String) (value : Value) :
    tables.replace user (t.written name value) = tables.put user name value := by
  obtain ⟨robot, user?⟩ := tables
  cases user with
  | true =>
    cases own
    rfl
  | false =>
    cases own
    rfl

theorem table?_put_other (tables : Tables) (user : Bool) (name : String) (value : Value) :
    (tables.put user name value).table? (!user) = tables.table? (!user) := by
  cases user <;> rfl

theorem size_put (tables : Tables) (user : Bool) (name : String) (value : Value) :
    (tables.put user name value).robot.size = tables.robot.size := by
  cases user with
  | true => rfl
  | false => exact List.length_map _

theorem lookup?_put_self (has : tables.lookup? user name = some e) (value : Value) :
    (tables.put user name value).lookup? user name = some ⟨name, value, true⟩ := by
  obtain ⟨t, own, found⟩ := Option.bind_eq_some_iff.mp has
  have wrote := Table.lookup?_written_self found value
  obtain ⟨robot, user?⟩ := tables
  cases user with
  | true =>
    cases own
    exact wrote
  | false =>
    cases own
    exact wrote

theorem lookup?_put_other {user' : Bool} {name' : String} (differs : ¬ (user' = user ∧ name' = name))
    (value : Value) : (tables.put user name value).lookup? user' name' = tables.lookup? user' name' := by
  by_cases same : user' = user
  · subst same
    have other : name' ≠ name := fun named => differs ⟨rfl, named⟩
    cases user' with
    | true =>
      unfold lookup? table? put
      cases tables.user? with
      | none => rfl
      | some own => exact Table.lookup?_written_other other value
    | false => exact Table.lookup?_written_other other value
  · obtain rfl : user' = !user := by cases user <;> cases user' <;> simp_all
    rw [lookup?, table?_put_other, lookup?]

end Tables

/-- The value of the last write under a name into a table. -/
def latest (sends : List Send) (user : Bool) (name : String) : Option Value :=
  (sends.reverse.find? fun send => send.user = user ∧ send.name = name).map (·.value)

theorem latest_append (sends : List Send) (send : Send) (user : Bool) (name : String) :
    latest (sends ++ [send]) user name =
      if user = send.user ∧ name = send.name then some send.value else latest sends user name := by
  unfold latest
  rw [List.reverse_append, List.reverse_singleton, List.singleton_append, List.find?_cons]
  by_cases same : send.user = user ∧ send.name = name
  · obtain ⟨rfl, rfl⟩ := same
    simp
  · have differs : ¬ (user = send.user ∧ name = send.name) := fun ⟨user, name⟩ =>
      same ⟨user.symm, name.symm⟩
    simp [same, differs]

namespace Tables

/-- Tables after a history of writes: the names and kinds of before, and the last values. -/
structure Follows (first : Tables) (sends : List Send) (now : Tables) : Prop where
  has : ∀ user, (now.table? user).isSome = (first.table? user).isSome
  kinds : ∀ user name, now.kind? user name = first.kind? user name
  values : ∀ user name old, first.value? user name = some old →
    now.value? user name = some ((latest sends user name).getD old)

variable {first now next : Tables} {sends : List Send} {kind : RequestKind} {name : String}
  {value reported : Value}

/-- What is found is the last value that was written, or the one of before. -/
theorem Follows.eq_latest (follows : Follows first sends now) {user : Bool}
    (found : now.value? user name = some value) :
    some value = (latest sends user name).or (first.value? user name) := by
  have kinds := follows.kinds user name
  rw [kind?, found] at kinds
  obtain ⟨initial, given, -⟩ := Option.map_eq_some_iff.mp kinds.symm
  rw [← found, follows.values user name initial given, given]
  cases latest sends user name <;> rfl

theorem Follows.userless (follows : Follows first sends now) (absent : first.user? = none) :
    now.table? true = none := by
  rw [← Option.not_isSome_iff_eq_none, follows.has, Option.not_isSome_iff_eq_none]
  exact absent

theorem Follows.refl (tables : Tables) : Follows tables [] tables :=
  ⟨fun _ => rfl, fun _ _ => rfl, fun _ _ _ same => same⟩

theorem Follows.put (follows : Follows first sends now) {user : Bool} {old : Value}
    (has : now.value? user name = some old) (same : old.kind = value.kind) :
    Follows first (sends ++ [⟨user, name, value⟩]) (now.put user name value) := by
  constructor
  case has => exact fun user' => (isSome_table?_put user' value).trans (follows.has user')
  case kinds =>
    intro user' name'
    rw [← follows.kinds, kind?, value?_put has]
    split
    next this =>
      obtain ⟨rfl, rfl⟩ := this
      rw [kind?, has, Option.map_some, Option.map_some, same]
    next => rfl
  case values =>
    intro user' name' initial declared
    rw [value?_put has, latest_append]
    split
    · rfl
    · exact follows.values user' name' initial declared

theorem Follows.skip (follows : Follows first sends now) {user : Bool}
    (none : now.table? user = none) (name : String) (value : Value) :
    Follows first (sends ++ [⟨user, name, value⟩]) now := by
  refine ⟨follows.has, follows.kinds, fun user' name' initial declared => ?_⟩
  have differs : ¬ (user' = user ∧ name' = name) := by
    rintro ⟨rfl, rfl⟩
    have absent := follows.has user'
    rw [none] at absent
    cases own : first.table? user' with
    | none => simp [value?, own] at declared
    | some t =>
      rw [own] at absent
      cases absent
  rw [latest_append, if_neg differs]
  exact follows.values user' name' initial declared

def sent (kind : RequestKind) (name : String) (value : Value) : List Send :=
  if kind.writes then [⟨kind.user, name, value⟩] else []

theorem Follows.request (follows : Follows first sends now)
    (served : now.request kind name value = some (reported, next)) :
    Follows first (sends ++ sent kind name value) next := by
  cases own : now.table? kind.user with
  | none =>
    cases (request_of_none own name value).symm.trans served
    unfold sent
    split
    · exact follows.skip own name value
    · rwa [List.append_nil]
  | some t =>
    obtain ⟨old, has, same⟩ := declared_of_request (by rw [own]; rfl) served
    rw [request_of_declared has same] at served
    unfold sent
    cases writes : kind.writes with
    | true =>
      rw [writes] at served
      cases served
      exact follows.put has same
    | false =>
      rw [writes] at served
      cases served
      rwa [if_neg (by decide), List.append_nil]

end Tables

end Lockstep.Parameter
