import Lockstep.Proofs.Bridge.Applied
import Lockstep.Proofs.Parameter.Tables
import Lockstep.Proofs.Parameter.Value

/-! A responder that is asked again and again.

The responder gives an answer as a whole, and its desk takes it over. Written
statement by statement, over a response and tables that are changed in place, it
comes to the same: no error comes after a write.
-/

set_option autoImplicit false

namespace Lockstep

open Message Parameter Effect

namespace Message.Request

variable {q : Request} {kind : RequestKind} {name : String} {valueKind : Kind}

def contents (q : Request) : Except Parameter.Error (RequestKind × String × Kind) := do
  let kind ← q.kind
  let name ← q.name
  let valueKind ← q.valueKind
  return (kind, name, valueKind)

theorem contents_ok (read : q.contents = .ok (kind, name, valueKind)) :
    q.kind = .ok kind ∧ q.name = .ok name ∧ q.valueKind = .ok valueKind := by
  obtain ⟨kind', readKind, read⟩ := bind_ok read
  obtain ⟨name', readName, read⟩ := bind_ok read
  obtain ⟨valueKind', readValueKind, read⟩ := bind_ok read
  cases read
  exact ⟨readKind, readName, readValueKind⟩

end Message.Request

namespace Bridge

theorem respond_unread {q : Request} {r : Response} {cause : Parameter.Error}
    (new : ¬ q.number ≤ r.number) (one : q.number - r.number = 1)
    (unread : q.contents = .error cause) (t : Table) (user? : Option Table) :
    respond q r t user? = .error (.parameter cause) := by
  unfold respond
  rw [if_neg new]
  simp only [one, ne_eq, not_true, if_false]
  obtain failed | ⟨kind, readKind, rest⟩ := bind_error unread
  · rw [failed]
    rfl
  obtain failed | ⟨name, readName, rest⟩ := bind_error rest
  · rw [readKind, failed]
    rfl
  obtain failed | ⟨valueKind, -, rest⟩ := bind_error rest
  · rw [readKind, readName, failed]
    rfl
  · cases rest

/-- What a responder keeps: the response that was given last, and the tables. -/
structure Desk where
  response : Response
  tables : Tables
  deriving DecidableEq

/-- A request that is put before a responder, with the controller's table or without. -/
structure Asking where
  request : Request
  lends : Bool

def Asking.lent (a : Asking) (tables : Tables) : Tables :=
  ⟨tables.robot, if a.lends then tables.user? else none⟩

namespace Desk

def ask (d : Desk) (a : Asking) : Except Error Outcome × Desk :=
  match respond a.request d.response d.tables.robot (a.lent d.tables).user? with
  | .ok answer => (.ok answer.outcome, ⟨answer.response,
      ⟨answer.robot, if a.lends then answer.user? else d.tables.user?⟩⟩)
  | .error e => (.error e, d)

def served (d : Desk) (q : Request) (kind : RequestKind) (name : String) :
    Except Error (Value × Table) → Except Error Outcome × Desk
  | .ok (value, t) =>
    let tables := d.tables.replace kind.user t
    (.ok (.applied q.number kind name value), ⟨.acknowledge q value tables.robot.size, tables⟩)
  | .error e => (.error e, d)

/-- A part of an answer that is given in place; what was done before an error stays done. -/
abbrev Answering := ExceptT Error (StateM Desk)

def ofExcept {α : Type} (r : Except Error α) : Answering α := ExceptT.mk (pure r)

def acknowledge (q : Request) (value : Value) (count : Nat) : Answering Unit :=
  modify fun d => { d with response := .acknowledge q value count }

def store (user : Bool) (t : Table) (name : String) (value : Value) : Answering Table := do
  let t ← ofExcept ((t.set name value).mapError .table)
  modify fun d => { d with tables := d.tables.replace user t }
  return t

def serve (q : Request) (kind : RequestKind) (name : String) (valueKind : Kind) (count : Nat)
    (t : Table) : Answering Outcome := do
  match t.lookup? name with
  | none => throw (.table (.unknown name t.label))
  | some entry =>
    if entry.kind ≠ valueKind then throw (.table (.mismatch name entry.kind valueKind))
    let t ← if kind.writes then store kind.user t name (.ofWire valueKind q.rawValue) else pure t
    let value ← ofExcept ((t.get name).mapError .table)
    acknowledge q value count
    return .applied q.number kind name value

/-- The responder, statement by statement. -/
def answer (a : Asking) : Answering Outcome := do
  let q := a.request
  let ⟨response, tables⟩ ← get
  if q.number ≤ response.number then
    return .redundant q.number response.number
  if q.number - response.number ≠ 1 then
    throw (.tooManyPending q.number response.number)
  let (kind, name, valueKind) ← ofExcept (q.contents.mapError .parameter)
  let count := tables.robot.size
  match (a.lent tables).table? kind.user with
  | none =>
    acknowledge q (.ofWire valueKind q.rawValue) count
    return .noUserTable q.number name
  | some t => serve q kind name valueKind count t

@[simp] theorem run_ofExcept {α : Type} (r : Except Error α) (d : Desk) :
    (ofExcept r).run d = (r, d) := rfl

@[simp] theorem run_acknowledge (q : Request) (value : Value) (count : Nat) (d : Desk) :
    (acknowledge q value count).run d = (.ok (), ⟨.acknowledge q value count, d.tables⟩) := rfl

section

variable {d : Desk} {a : Asking} {kind : RequestKind} {name : String} {valueKind : Kind}

theorem ask_refused {e : Error}
    (refused : respond a.request d.response d.tables.robot (a.lent d.tables).user? = .error e) :
    d.ask a = (.error e, d) := by
  rw [ask, refused]

theorem ask_old (old : a.request.number ≤ d.response.number) :
    d.ask a = (.ok (.redundant a.request.number d.response.number), d) := by
  obtain ⟨response, robot, user?⟩ := d
  rw [ask, respond_old old]
  cases lends : a.lends <;> simp [Asking.lent, lends]

variable (fresh : Fresh a.request d.response kind name valueKind)

include fresh

theorem ask_userless (absent : (a.lent d.tables).table? kind.user = none) :
    d.ask a = (.ok (.noUserTable a.request.number name),
      ⟨.acknowledge a.request (.ofWire valueKind a.request.rawValue) d.tables.robot.size,
        d.tables⟩) := by
  cases own : kind.user with
  | false =>
    rw [own] at absent
    cases absent
  | true =>
    rw [own] at absent
    have userless : (a.lent d.tables).user? = none := absent
    rw [ask, userless, respond_userless fresh d.tables.robot own]
    obtain ⟨response, robot, user?⟩ := d
    cases lends : a.lends with
    | false => rfl
    | true =>
      obtain rfl : user? = none := by simpa [Asking.lent, lends] using userless
      rfl

theorem ask_table {t : Table} (own : (a.lent d.tables).table? kind.user = some t) :
    d.ask a = d.served a.request kind name (serveRequest a.request kind name valueKind t) := by
  cases user : kind.user with
  | false =>
    rw [user] at own
    obtain rfl : d.tables.robot = t := Option.some.inj own
    rw [ask, respond_robot fresh d.tables.robot user]
    cases serveRequest a.request kind name valueKind d.tables.robot with
    | error e => rfl
    | ok reported => cases lends : a.lends <;> simp [served, Except.map, user, Tables.replace, Asking.lent, lends]
  | true =>
    rw [user] at own
    have has : (a.lent d.tables).user? = some t := own
    rw [ask, has, respond_user fresh d.tables.robot user]
    have lends : a.lends = true := by
      by_contra kept
      simp [Asking.lent, kept] at has
    cases serveRequest a.request kind name valueKind t with
    | error e => rfl
    | ok reported => simp [served, Except.map, user, Tables.replace, lends]

end

theorem table?_of_lent {a : Asking} {tables : Tables} {user : Bool} {t : Table}
    (own : (a.lent tables).table? user = some t) : tables.table? user = some t := by
  cases user with
  | false => exact own
  | true =>
    cases lends : a.lends with
    | true => simpa [Asking.lent, Tables.table?, lends] using own
    | false => simp [Asking.lent, Tables.table?, lends] at own

theorem run_store {d : Desk} {user : Bool} {t : Table} {name : String} {value : Value} {entry : Entry}
    (found : t.lookup? name = some entry) (same : entry.kind = value.kind)
    (own : d.tables.table? user = some t) : (store user t name value).run d =
      (.ok (t.written name value), ⟨d.response, d.tables.put user name value⟩) := by
  simp [store, Table.set_of_lookup found same, Except.mapError, Tables.replace_written own]

theorem run_serve {d : Desk} {q : Request} {kind : RequestKind} {t : Table}
    (own : d.tables.table? kind.user = some t) (name : String) (valueKind : Kind) :
    (serve q kind name valueKind d.tables.robot.size t).run d =
      d.served q kind name (serveRequest q kind name valueKind t) := by
  unfold serve
  cases found : t.lookup? name with
  | none =>
    rw [serveRequest_unknown found]
    rfl
  | some entry =>
  by_cases same : entry.kind = valueKind
  case neg =>
    rw [serveRequest_mismatch found same]
    simp [served, same]
  cases writes : kind.writes with
  | false =>
    rw [serveRequest_read found same writes]
    simp [served, same, Table.get_of_lookup found, Except.mapError, Tables.replace_own own]
  | true =>
    have kinds : entry.kind = (Value.ofWire valueKind q.rawValue).kind := by simpa using same
    have wrote := Table.lookup?_written_self found (.ofWire valueKind q.rawValue)
    rw [serveRequest_write found same writes]
    simp [served, same, run_store found kinds own, Table.get_of_lookup wrote, Except.mapError,
      Tables.replace_written own, Tables.size_put]

/-- Changing everything in place comes to the answer as a whole: whatever stops a
request stops it before its first write. -/
theorem run_answer (d : Desk) (a : Asking) : (answer a).run d = d.ask a := by
  unfold answer
  by_cases old : a.request.number ≤ d.response.number
  case pos => simp [old, ask_old old]
  by_cases one : a.request.number - d.response.number = 1
  case neg =>
    have refused : respond a.request d.response d.tables.robot (a.lent d.tables).user? =
        .error (.tooManyPending a.request.number d.response.number) := by
      simp [respond, old, one]
      rfl
    simp [old, one, ask_refused refused]
  cases read : a.request.contents with
  | error cause =>
    have refused := respond_unread old one read d.tables.robot (a.lent d.tables).user?
    simp [old, one, read, ask_refused refused, Except.mapError]
  | ok contents =>
    obtain ⟨kind, name, valueKind⟩ := contents
    obtain ⟨readKind, readName, readValueKind⟩ := Request.contents_ok read
    have fresh : Fresh a.request d.response kind name valueKind :=
      ⟨UInt64.not_le.mp old, one, readKind, readName, readValueKind⟩
    cases own : (a.lent d.tables).table? kind.user with
    | none =>
      rw [ask_userless fresh own]
      simp [old, one, read, own, Except.mapError]
    | some t =>
      rw [ask_table fresh own, ← run_serve (table?_of_lent own) name valueKind]
      simp [old, one, read, own, Except.mapError]

end Desk

end Bridge

end Lockstep
