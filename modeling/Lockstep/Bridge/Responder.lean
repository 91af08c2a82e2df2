import Lockstep.Bridge.Error
import Lockstep.Journal
import Lockstep.Message.Exchange
import Lockstep.Parameter.File

/-! What writes to the tables of a robot program: the simulator's requests, and files.

A request is answered once. Its number has to be the one after that of the last
response; an older one asks for nothing new. Files the program reads itself.
-/

set_option autoImplicit false

namespace Lockstep.Bridge

open Message Parameter

inductive Outcome where
  -- It was answered before.
  | redundant (number last : UInt64)
  | applied (number : UInt64) (kind : RequestKind) (name : String) (value : Value)
  -- It is about the controller's parameters, and the controller has none.
  | noUserTable (number : UInt64) (name : String)
  deriving DecidableEq, Repr

structure Answer where
  outcome : Outcome
  response : Response
  robot : Table
  user? : Option Table

def serveRequest (request : Request) (kind : RequestKind) (name : String) (valueKind : Kind)
    (t : Table) : Except Error (Value × Table) := do
  match t.lookup? name with
  | none => throw (.table (.unknown name t.label))
  | some entry =>
    if entry.kind ≠ valueKind then throw (.table (.mismatch name entry.kind valueKind))
    let t ← if kind.writes then
        (t.set name (.ofWire valueKind request.rawValue)).mapError .table
      else pure t
    let value ← (t.get name).mapError .table
    return (value, t)

/-- Answer the pending request. An error changes neither tables nor response. -/
def respond (request : Request) (response : Response) (robot : Table) (user? : Option Table) :
    Except Error Answer := do
  if request.number ≤ response.number then
    return ⟨.redundant request.number response.number, response, robot, user?⟩
  if request.number - response.number ≠ 1 then
    throw (.tooManyPending request.number response.number)
  let kind ← request.kind.mapError .parameter
  let name ← request.name.mapError .parameter
  let valueKind ← request.valueKind.mapError .parameter
  if kind.user then
    match user? with
    | none =>
      return ⟨.noUserTable request.number name,
        .acknowledge request (.ofWire valueKind request.rawValue) robot.size, robot, none⟩
    | some user =>
      let (value, user) ← serveRequest request kind name valueKind user
      return ⟨.applied request.number kind name value,
        .acknowledge request value robot.size, robot, some user⟩
  else
    let (value, robot) ← serveRequest request kind name valueKind robot
    return ⟨.applied request.number kind name value,
      .acknowledge request value robot.size, robot, user?⟩

def setRecord (t : Table) (name : String) (value : Value) : Record :=
  ⟨.debug, "Control parameter set",
    [("table", .text t.label), ("name", .text name), ("value", .text value.text)]⟩

def Answer.records (a : Answer) : List Record :=
  match a.outcome with
  | .redundant number last =>
    [⟨.warn, "Parameter turn without a new request",
      [("request_number", .number number.toNat), ("response_number", .number last.toNat)]⟩]
  | .noUserTable _ name =>
    [⟨.warn, "User parameter requested but the controller has no user parameters",
      [("name", .text name)]⟩]
  | .applied number kind name value =>
    let table := if kind.user then a.user?.getD a.robot else a.robot
    (if kind.writes then [setRecord table name value] else []) ++
    [⟨.info, "Control parameter request handled",
      [("request_number", .number number.toNat), ("kind", .text kind.label), ("name", .text name),
        ("value", .text value.text)]⟩]

/-- Write a file's values into a table, up to the first that is refused. Gives
how it ended, the table then, and records of what was written. -/
def loadFile (t : Table) (path : String) (file : Config.File) :
    Except Error Unit × Table × List Record :=
  match loadValues file with
  | .error e => (.error (.parameter e), t, [])
  | .ok values =>
    let accepted := values.takeWhile fun (name, value) => t.accepts name value
    let written := accepted.map fun (name, value) => setRecord t name value
    match t.apply values with
    | (t, .error refusal) => (.error (.table refusal), t, written)
    | (t, .ok ()) =>
      (.ok (), t, written ++
        [⟨.info, "Control parameters loaded from file",
          [("table", .text t.label), ("path", .text path), ("loaded", .number values.length),
            ("missing", .number t.uninitialized.length)]⟩])

end Lockstep.Bridge
