import Lockstep.Proofs.Bridge.Applied
import Lockstep.Proofs.Bridge.Standing
import Lockstep.Proofs.Number.Words
import Lockstep.Proofs.Parameter.Tables
import Lockstep.Proofs.Parameter.Value

/-! A robot program as a store of parameters: a request that was made by a
simulator does to its tables what it says, and no other turn touches them. -/

set_option autoImplicit false

namespace Lockstep.Bridge

open Message Parameter Effect

theorem fresh_of_make {r : Response} {q : Request} {kind : RequestKind} {name : String}
    {value : Value} (room : r.number.toNat + 1 < UInt64.size)
    (made : Request.make (r.number + 1) kind name value = .ok q) :
    Fresh q r kind name value.kind ∧ q.rawValue = value.toWire := by
  obtain ⟨wire, encoded, made⟩ := bind_ok made
  cases made
  have read := decodeName_encodeName encoded
  constructor
  · constructor
    case more => exact Number.lt_next room
    case one =>
      change r.number + 1 - r.number = 1
      grind
    case kind => simp [Request.kind, decodeRequestKind]
    case name => exact read
    case valueKind => simp [Request.valueKind, decodeKind]
  · rfl

section

variable {q : Request} {r : Response} {kind : RequestKind} {name : String} {value : Value}

theorem serveRequest_served (carries : q.rawValue = value.toWire) {tables next : Tables}
    {t : Table} {reported : Value} (own : tables.table? kind.user = some t)
    (served : tables.request kind name value = some (reported, next)) :
    serveRequest q kind name value.kind t =
        .ok (reported, if kind.writes then t.written name value else t) ∧
      next = if kind.writes then tables.put kind.user name value else tables := by
  obtain ⟨old, has, same⟩ := Tables.declared_of_request (by rw [own]; rfl) served
  rw [Tables.request_of_declared has same] at served
  rw [Tables.value?, own, Option.bind_some] at has
  obtain ⟨e, found, rfl⟩ := Option.map_eq_some_iff.mp has
  cases writes : kind.writes with
  | true =>
    rw [writes] at served
    cases served
    have wrote := serveRequest_write (q := q) found same writes
    rw [carries, Value.ofWire_toWire] at wrote
    exact ⟨wrote, rfl⟩
  | false =>
    rw [writes] at served
    cases served
    exact ⟨serveRequest_read found same writes, rfl⟩

theorem respond_served (fresh : Fresh q r kind name value.kind)
    (carries : q.rawValue = value.toWire) {tables next : Tables} {reported : Value}
    (served : tables.request kind name value = some (reported, next)) :
    ∃ outcome count, respond q r tables.robot tables.user? =
      .ok ⟨outcome, .acknowledge q reported count, next.robot, next.user?⟩ := by
  cases own : kind.user with
  | false =>
    have table : tables.table? kind.user = some tables.robot := by
      rw [own]
      rfl
    obtain ⟨went, rfl⟩ := serveRequest_served carries table served
    rw [respond_robot fresh tables.robot own, went, own]
    cases kind.writes with
    | true => exact ⟨_, _, rfl⟩
    | false => exact ⟨_, _, rfl⟩
  | true =>
    cases table : tables.user? with
    | none =>
      have none : tables.table? kind.user = none := by
        rw [own]
        exact table
      cases (Tables.request_of_none none name value).symm.trans served
      rw [respond_userless fresh tables.robot own, carries, Value.ofWire_toWire, table]
      exact ⟨_, _, rfl⟩
    | some user =>
      have one : tables.table? kind.user = some user := by
        rw [own]
        exact table
      obtain ⟨went, rfl⟩ := serveRequest_served carries one served
      rw [respond_user fresh tables.robot own user, went, own]
      cases kind.writes with
      | true =>
        simp only [Tables.put, table]
        exact ⟨_, _, rfl⟩
      | false =>
        change ∃ outcome count, Except.ok (⟨.applied q.number kind name reported,
          .acknowledge q reported tables.robot.size, tables.robot, some user⟩ : Answer) =
          .ok ⟨outcome, .acknowledge q reported count, tables.robot, tables.user?⟩
        rw [table]
        exact ⟨_, _, rfl⟩

theorem serveRequest_refused {tables : Tables} {t : Table} (own : tables.table? kind.user = some t)
    (refused : tables.request kind name value = none) :
    ∃ e, serveRequest q kind name value.kind t = .error e := by
  cases found : t.lookup? name with
  | none => exact ⟨_, serveRequest_unknown found⟩
  | some e =>
    refine ⟨_, serveRequest_mismatch found fun same => ?_⟩
    have has : tables.value? kind.user name = some e.value := by simp [Tables.value?, own, found]
    cases (Tables.request_of_declared has same).symm.trans refused

theorem respond_refused (fresh : Fresh q r kind name value.kind) {tables : Tables}
    (refused : tables.request kind name value = none) :
    ∃ e, respond q r tables.robot tables.user? = .error e := by
  cases own : kind.user with
  | false =>
    have table : tables.table? kind.user = some tables.robot := by
      rw [own]
      rfl
    obtain ⟨e, failed⟩ := serveRequest_refused (q := q) table refused
    rw [respond_robot fresh tables.robot own, failed]
    exact ⟨_, rfl⟩
  | true =>
    cases table : tables.user? with
    | none =>
      have none : tables.table? kind.user = none := by
        rw [own]
        exact table
      cases (Tables.request_of_none none name value).symm.trans refused
    | some user =>
      have one : tables.table? kind.user = some user := by
        rw [own]
        exact table
      obtain ⟨e, failed⟩ := serveRequest_refused (q := q) one refused
      rw [respond_user fresh tables.robot own user, failed]
      exact ⟨_, rfl⟩

end

def Program.tables (p : Program) : Tables := ⟨p.parameters, p.controller.user?⟩

theorem Program.Took.tables {p q : Program} {answer : Answer} (took : p.Took answer q) :
    q.tables = ⟨answer.robot, answer.user?⟩ := by
  rw [Program.tables, took.parameters, took.user]

variable {p : Program} {m : Message}

section

variable {q : Request} {kind : RequestKind} {name : String} {value : Value}

/-- A program of the robot that the simulator declares serves a request as its tables do. -/
theorem Program.serve_served (asked : m.mode? = some .applyParameters)
    (declared : Robot.ofCode? m.toRobot.robotCode = some p.robot)
    (fresh : Fresh m.toRobot.request m.toSimulator.response kind name value.kind)
    (carries : m.toRobot.request.rawValue = value.toWire) {next : Tables} {reported : Value}
    (served : p.tables.request kind name value = some (reported, next)) :
    ∃ t count, p.serve m = (.ok .applyParameters, t) ∧ t.program.robot = p.robot ∧
      t.program.tables = next ∧
      t.output.response = .acknowledge m.toRobot.request reported count := by
  obtain ⟨outcome, count, answering⟩ := respond_served fresh carries served
  obtain ⟨other, -⟩ | ⟨e, t, refused, -⟩ | ⟨answer, t, answered, went, said, took⟩ :=
    serve_applying (p := p) asked
  · exact absurd declared other
  · cases answering.symm.trans refused
  · cases answering.symm.trans answered
    exact ⟨t, count, went, took.robot, took.tables, congrArg Report.response said⟩

theorem Program.serve_refused (asked : m.mode? = some .applyParameters)
    (fresh : Fresh m.toRobot.request m.toSimulator.response kind name value.kind)
    (refused : p.tables.request kind name value = none) : ∃ e t, p.serve m = (.error e, t) := by
  obtain ⟨cause, refusing⟩ := respond_refused fresh refused
  obtain ⟨-, e, t, failed⟩ | ⟨e, t, -, failed⟩ | ⟨answer, t, answered, -⟩ :=
    serve_applying (p := p) asked
  · exact ⟨e, t, failed⟩
  · exact ⟨e, t, failed⟩
  · cases refusing.symm.trans answered

end

theorem Program.serve_idles (settled : m.Settled) {mode : Mode} {t : Turn}
    (served : p.serve m = (.ok mode, t)) : t.program.robot = p.robot ∧ t.program.tables = p.tables := by
  by_cases applying : mode = .applyParameters
  · subst applying
    have asked := (Program.serve_settles (.inl settled) served).1
    have old : m.toRobot.request.number ≤ m.toSimulator.response.number := by
      rw [settled.number]
      exact UInt64.le_refl _
    obtain ⟨-, e, t', failed⟩ | ⟨e, t', -, failed⟩ | ⟨answer, t', answered, went, -, took⟩ :=
      serve_applying (p := p) asked
    · cases failed.symm.trans served
    · cases failed.symm.trans served
    · cases went.symm.trans served
      rw [Program.respond, respond_old old] at answered
      cases answered
      exact ⟨took.robot, took.tables⟩
  · have kept := (serve_stays served (by simpa using applying)).kept
    refine ⟨kept.robot, ?_⟩
    rw [Program.tables, kept.parameters, kept.user]
    rfl

end Lockstep.Bridge
