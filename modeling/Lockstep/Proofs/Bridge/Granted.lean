import Lockstep.Proofs.Bridge.Frame
import Lockstep.Proofs.Bridge.Store

/-! Turns of a program that its simulator has the right robot for, spelled out.

Such a turn goes as its mode says and nothing else touches the program. A write
that a simulator asks for is the write that the table would do by itself.
-/

set_option autoImplicit false

namespace Lockstep

open Message Parameter Effect

theorem Controller.setUser_user {c : Controller} {t : Table} (own : c.user? = some t) :
    c.setUser t = c := by
  cases c with
  | passive => cases own
  | stand c =>
    cases own
    rfl

theorem Controller.keep_user (c : Controller) :
    (match c.user? with
      | some user => c.setUser user
      | none => c) = c := by
  cases own : c.user? with
  | some t => exact Controller.setUser_user own
  | none => rfl

namespace Bridge

theorem serveRequest_set {q : Request} {kind : RequestKind} {value : Value}
    (carries : q.rawValue = value.toWire) (writes : kind.writes = true) (name : String) (t : Table) :
    serveRequest q kind name value.kind t =
      ((t.set name value).mapError Error.table).map fun t' => (value, t') := by
  cases found : t.lookup? name with
  | none =>
    rw [serveRequest_unknown found, Table.set, found]
    rfl
  | some e =>
    by_cases same : e.kind = value.kind
    · rw [serveRequest_write found same writes, carries, Value.ofWire_toWire,
        Table.set_of_lookup found same]
      rfl
    · rw [serveRequest_mismatch found same, Table.set, found]
      simp only [same, if_false]
      rfl

namespace Program

/-- The simulator has declared the robot of the program, or does so in this message. -/
def Accepts (p : Program) (m : Message) : Prop :=
  p.confirmed = true ∨ Robot.ofCode? m.toRobot.robotCode = some p.robot

def accepted (p : Program) : Program := { p with confirmed := true }

def signed (p : Program) (m : Message) : ToSimulator :=
  { m.toSimulator with robotCode := p.robot.code }

def withTable (p : Program) : Bool → Table → Program
  | true, t => { p with controller := p.controller.setUser t }
  | false, t => { p with parameters := t }

end Program

variable {p : Program} {m : Message} {user : Bool} {t : Table}

theorem Program.withTable_own (own : p.tables.table? user = some t) : p.withTable user t = p := by
  cases user with
  | true => rw [withTable, Controller.setUser_user own]
  | false =>
    cases own
    rfl

theorem Program.table?_withTable (own : p.tables.table? user = some t) (t' : Table) :
    (p.withTable user t').tables.table? user = some t' ∧
      (p.withTable user t').tables.table? (!user) = p.tables.table? (!user) := by
  cases user with
  | true => exact ⟨Controller.user?_setUser own t', rfl⟩
  | false => exact ⟨rfl, rfl⟩

theorem Program.withTable_withTable (p : Program) (user : Bool) (t t' : Table) :
    (p.withTable user t).withTable user t' = p.withTable user t' := by
  cases user with
  | true =>
    unfold withTable Controller.setUser
    cases p.controller with
    | passive => rfl
    | stand c => rfl
  | false => rfl

theorem Turn.run_confirm_accepted (accepts : p.Accepts m) (output : ToSimulator) :
    ∃ records, (confirm m.toRobot.robotCode).run ⟨p, output, []⟩ =
      (.ok (), ⟨p.accepted, output, records⟩) := by
  obtain confirmed | declared := accepts
  · refine ⟨[], ?_⟩
    have same : p.accepted = p := by rw [Program.accepted, ← confirmed]
    rw [same]
    simp [confirm, confirmed]
  · exact run_confirm_declared (t := ⟨p, output, []⟩) declared

theorem Program.serve_resting (accepts : p.Accepts m) {mode : Mode} (asked : m.mode? = some mode)
    (rests : mode = .idle ∨ mode = .exit) :
    ∃ records, p.serve m = (.ok mode, ⟨p.accepted, p.signed m, records⟩) := by
  obtain ⟨records, confirmed⟩ := Turn.run_confirm_accepted accepts m.toSimulator
  have decoded : Mode.ofCode? m.toRobot.modeCode = some mode := asked
  unfold Program.serve Turn.serve
  simp only [run_bind, confirmed, Turn.declareRobot, run_modify, Turn.decodeMode, decoded, run_pure]
  obtain rfl | rfl := rests
  · exact ⟨_, rfl⟩
  · exact ⟨_, rfl⟩

section

variable (accepts : p.Accepts m) (asked : m.mode? = some .applyParameters)

include accepts asked

theorem Program.serve_refusing {e : Error} (refused : p.respond m = .error e) :
    ∃ records, p.serve m = (.error e, ⟨p.accepted, p.signed m, records⟩) := by
  obtain ⟨records, confirmed⟩ := Turn.run_confirm_accepted accepts m.toSimulator
  have decoded : Mode.ofCode? m.toRobot.modeCode = some .applyParameters := asked
  have same : Bridge.respond m.toRobot.request m.toSimulator.response p.parameters
    p.controller.user? = .error e := refused
  unfold Program.serve Turn.serve
  simp only [run_bind, confirmed, Turn.declareRobot, run_modify, Turn.decodeMode, decoded, run_pure,
    Turn.applyParameters, run_get, Turn.run_ofExcept, Program.accepted, same]
  exact ⟨_, rfl⟩

theorem Program.serve_answering {answer : Answer}
    (answered : p.respond m = .ok answer)
    (new : ∀ number last, answer.outcome ≠ .redundant number last) :
    ∃ records, p.serve m = (.ok .applyParameters,
      ⟨{ p.accepted with
          controller := match answer.user? with
            | some user => p.controller.setUser user
            | none => p.controller
          parameters := answer.robot },
        { p.signed m with response := answer.response }, records⟩) := by
  obtain ⟨records, confirmed⟩ := Turn.run_confirm_accepted accepts m.toSimulator
  have decoded : Mode.ofCode? m.toRobot.modeCode = some .applyParameters := asked
  have same : Bridge.respond m.toRobot.request m.toSimulator.response p.parameters
    p.controller.user? = .ok answer := answered
  unfold Program.serve Turn.serve
  simp only [run_bind, confirmed, Turn.declareRobot, run_modify, Turn.decodeMode, decoded, run_pure,
    Turn.applyParameters, run_get, Turn.run_ofExcept, Program.accepted, same, run_set]
  cases outcome : answer.outcome with
  | redundant number last => exact absurd outcome (new number last)
  | applied => exact ⟨_, rfl⟩
  | noUserTable => exact ⟨_, rfl⟩

end

/-- A write that a simulator asks for ends as the table's own write does. -/
theorem Program.serve_set (accepts : p.Accepts m) (asked : m.mode? = some .applyParameters)
    {name : String} {value : Value}
    (fresh : Fresh m.toRobot.request m.toSimulator.response (.set user) name value.kind)
    (carries : m.toRobot.request.rawValue = value.toWire)
    (own : p.tables.table? user = some t) :
    match t.set name value with
    | .error refusal => ∃ records, p.serve m =
        (.error (.table refusal), ⟨p.accepted, p.signed m, records⟩)
    | .ok t' => ∃ count records, p.serve m = (.ok .applyParameters,
        ⟨p.accepted.withTable user t',
          { p.signed m with response := .acknowledge m.toRobot.request value count }, records⟩) := by
  have serves : serveRequest m.toRobot.request (.set user) name value.kind t = _ :=
    serveRequest_set carries rfl name t
  cases user with
  | false =>
    obtain rfl : p.parameters = t := Option.some.inj own
    have responds := respond_robot fresh p.parameters rfl p.controller.user?
    rw [serves] at responds
    cases wrote : p.parameters.set name value with
    | error refusal =>
      rw [wrote] at responds
      exact serve_refusing accepts asked responds
    | ok t' =>
      rw [wrote] at responds
      obtain ⟨records, went⟩ := serve_answering accepts asked responds fun _ _ => nofun
      dsimp only at went
      rw [Controller.keep_user] at went
      exact ⟨_, records, went⟩
  | true =>
    have has : p.controller.user? = some t := own
    have responds := respond_user fresh p.parameters rfl t
    rw [serves, ← has] at responds
    cases wrote : t.set name value with
    | error refusal =>
      rw [wrote] at responds
      exact serve_refusing accepts asked responds
    | ok t' =>
      rw [wrote] at responds
      obtain ⟨records, went⟩ := serve_answering accepts asked responds fun _ _ => nofun
      exact ⟨_, records, went⟩

end Bridge

end Lockstep
