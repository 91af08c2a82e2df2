import Lockstep.Proofs.Bridge.Answer
import Lockstep.Proofs.Bridge.Frame

/-! Turns that answer requests, with the tables that they leave. -/

set_option autoImplicit false

namespace Lockstep.Bridge

open Message Parameter Effect

section

variable {q : Request} {r : Response} {t : Table} {user? : Option Table}

inductive Refuses (q : Request) (r : Response) (t : Table) (user? : Option Table) : Error → Prop where
  | number : Refuses q r t user? (.tooManyPending q.number r.number)
  | kind {cause : Parameter.Error} : q.kind = .error cause → Refuses q r t user? (.parameter cause)
  | name {cause : Parameter.Error} : q.name = .error cause → Refuses q r t user? (.parameter cause)
  | valueKind {cause : Parameter.Error} : q.valueKind = .error cause →
      Refuses q r t user? (.parameter cause)
  | table {kind : RequestKind} {name : String} {valueKind : Kind} {own : Table} {e : Error} :
      Fresh q r kind name valueKind → own = t ∨ user? = some own →
      serveRequest q kind name valueKind own = .error e → Refuses q r t user? e

theorem refuses_of_respond {e : Error} (failed : respond q r t user? = .error e) :
    Refuses q r t user? e := by
  by_cases old : q.number ≤ r.number
  · cases (respond_old old t user?).symm.trans failed
  have started := failed
  unfold respond at started
  rw [if_neg old] at started
  by_cases one : q.number - r.number = 1
  case neg =>
    simp only [one, ne_eq, not_false_eq_true, if_true] at started
    cases started
    exact .number
  simp only [one, ne_eq, not_true, if_false] at started
  obtain failed' | ⟨kind, readKind, started⟩ := bind_error started
  · obtain ⟨cause, unread, rfl⟩ := mapError_error failed'
    exact .kind unread
  obtain failed' | ⟨name, readName, started⟩ := bind_error started
  · obtain ⟨cause, unread, rfl⟩ := mapError_error failed'
    exact .name unread
  obtain failed' | ⟨valueKind, readValueKind, -⟩ := bind_error started
  · obtain ⟨cause, unread, rfl⟩ := mapError_error failed'
    exact .valueKind unread
  have fresh : Fresh q r kind name valueKind :=
    ⟨UInt64.not_le.mp old, one, mapError_ok readKind, mapError_ok readName,
      mapError_ok readValueKind⟩
  cases own : kind.user with
  | false =>
    rw [respond_robot fresh t own] at failed
    exact .table fresh (.inl rfl) (map_error failed)
  | true =>
    cases user? with
    | none => cases (respond_userless fresh t own).symm.trans failed
    | some table =>
      rw [respond_user fresh t own table] at failed
      exact .table fresh (.inr rfl) (map_error failed)

theorem fresh_of_respond {answer : Answer} (new : ¬ q.number ≤ r.number)
    (answered : respond q r t user? = .ok answer) :
    ∃ kind name valueKind, Fresh q r kind name valueKind := by
  unfold respond at answered
  rw [if_neg new] at answered
  by_cases one : q.number - r.number = 1
  case neg =>
    simp only [one, ne_eq, not_false_eq_true, if_true] at answered
    cases answered
  simp only [one, ne_eq, not_true, if_false] at answered
  obtain ⟨kind, readKind, answered⟩ := bind_ok answered
  obtain ⟨name, readName, answered⟩ := bind_ok answered
  obtain ⟨valueKind, readValueKind, -⟩ := bind_ok answered
  exact ⟨kind, name, valueKind, UInt64.not_le.mp new, one, mapError_ok readKind,
    mapError_ok readName, mapError_ok readValueKind⟩

theorem respond_isSome {answer : Answer} (answered : respond q r t user? = .ok answer) :
    answer.user?.isSome = user?.isSome := by
  by_cases old : q.number ≤ r.number
  · cases (respond_old old t user?).symm.trans answered
    rfl
  obtain ⟨kind, name, valueKind, fresh⟩ := fresh_of_respond old answered
  cases own : kind.user with
  | false =>
    rw [respond_robot fresh t own] at answered
    obtain ⟨_, -, rfl⟩ := map_ok answered
    rfl
  | true =>
    cases user? with
    | none =>
      cases (respond_userless fresh t own).symm.trans answered
      rfl
    | some table =>
      rw [respond_user fresh t own table] at answered
      obtain ⟨_, -, rfl⟩ := map_ok answered
      rfl

end

def Stats.answered (stats : Stats) : Outcome → Stats
  | .redundant _ _ => { stats with redundantTurns := stats.redundantTurns + 1 }
  | .applied _ _ _ _ | .noUserTable _ _ => stats

structure Program.Took (p : Program) (answer : Answer) (q : Program) : Prop where
  robot : q.robot = p.robot
  parameters : q.parameters = answer.robot
  user : q.controller.user? = answer.user?
  stats : q.stats = p.stats.answered answer.outcome

namespace Turn

theorem run_confirm_declared {code : UInt32} {t : Turn}
    (declared : Robot.ofCode? code = some t.program.robot) : ∃ records, (confirm code).run t =
      (.ok (), ⟨{ t.program with confirmed := true }, t.output, records⟩) := by
  obtain ran | ran := run_confirm code t
  · exact ran
  · -- It would have been refused for another robot only.
    unfold confirm at ran
    cases confirmed : t.program.confirmed with
    | true =>
      simp only [run_bind, run_get, confirmed, if_true, run_pure] at ran
      cases ran
    | false =>
      simp [confirmed, declared] at ran
      cases ran

theorem applyParameters_took {input : ToRobot} {t : Turn} {answer : Answer}
    (answered : respond input.request t.output.response t.program.parameters
      t.program.controller.user? = .ok answer) :
    ∃ t', (applyParameters input).run t = (.ok (), t') ∧
      t'.output.report = ⟨answer.response, t.output.fault⟩ ∧
      t.program.Took answer t'.program := by
  unfold applyParameters
  simp only [run_bind, run_get, answered, run_ofExcept, run_set]
  refine ⟨_, rfl, rfl, rfl, rfl, ?_, by cases answer.outcome <;> rfl⟩
  have present := respond_isSome answered
  cases user : answer.user? with
  | none =>
    rw [user] at present
    exact Option.not_isSome_iff_eq_none.mp (by simp [← present])
  | some table =>
    rw [user] at present
    obtain ⟨old, has⟩ := Option.isSome_iff_exists.mp present.symm
    exact Controller.user?_setUser has table

end Turn

variable {p : Program} {m : Message}

theorem Program.serve_applying (asked : m.mode? = some .applyParameters) :
    (Robot.ofCode? m.toRobot.robotCode ≠ some p.robot ∧ ∃ e t, p.serve m = (.error e, t)) ∨
    (∃ e t, p.respond m = .error e ∧ p.serve m = (.error e, t)) ∨
    ∃ answer t, p.respond m = .ok answer ∧ p.serve m = (.ok .applyParameters, t) ∧
      t.output.report = ⟨answer.response, m.toSimulator.fault⟩ ∧ p.Took answer t.program := by
  unfold Program.serve Turn.serve
  simp only [run_bind]
  obtain ⟨records, ran⟩ | ran := Turn.run_confirm m.toRobot.robotCode ⟨p, m.toSimulator, []⟩
  case inr =>
    refine .inl ⟨fun declared => ?_, ?_⟩
    · obtain ⟨records, went⟩ := Turn.run_confirm_declared (t := ⟨p, m.toSimulator, []⟩) declared
      rw [went] at ran
      cases ran
    · rw [ran]
      exact ⟨_, _, rfl⟩
  right
  have decoded : Mode.ofCode? m.toRobot.modeCode = some .applyParameters := asked
  simp only [ran, Turn.declareRobot, run_modify, Turn.decodeMode, decoded, run_pure]
  generalize opened : (⟨_, _, _⟩ : Turn) = t
  have program : t.program = { p with confirmed := true } := by rw [← opened]
  have report : t.output.report = m.toSimulator.report := by
    rw [← opened]
    rfl
  have response : t.output.response = m.toSimulator.response := congrArg Report.response report
  have fault : t.output.fault = m.toSimulator.fault := congrArg Report.fault report
  have same : Bridge.respond m.toRobot.request t.output.response t.program.parameters
      t.program.controller.user? = p.respond m := by
    rw [program, response]
    rfl
  cases responded : p.respond m with
  | error e =>
    left
    obtain ⟨e', refused, went⟩ | ⟨answer, answered, -⟩ := Turn.run_applyParameters m.toRobot t
    · rw [same, responded] at refused
      cases refused
      exact ⟨_, _, rfl, by rw [run_bind, went]⟩
    · rw [same, responded] at answered
      cases answered
  | ok answer =>
    right
    obtain ⟨t', went, said, took⟩ := Turn.applyParameters_took (same.trans responded)
    rw [fault] at said
    rw [program] at took
    refine ⟨_, t', rfl, ?_, said, took.robot, took.parameters, took.user, took.stats⟩
    rw [run_bind, went]
    rfl

end Lockstep.Bridge
