import Lockstep.Bridge.Program
import Lockstep.Proofs.Bridge.Responder
import Lockstep.Proofs.Effect

/-! What one turn of a robot program does to the response, and what it can fail with.

Only a turn that answers a request touches the response, and none writes a fault
text. Everything else that a turn does keeps them, and fails for reasons of its
own.
-/

set_option autoImplicit false

namespace Lockstep

open Message Parameter Effect

namespace Message

structure Report where
  response : Response
  fault : Vector UInt8 faultCapacity

def ToSimulator.report (output : ToSimulator) : Report := ⟨output.response, output.fault⟩

/-- What a controller has no hand in: the signature and the report. -/
def ToSimulator.formal (output : ToSimulator) : UInt32 × Report := (output.robotCode, output.report)

theorem ToSimulator.formal_command (output : ToSimulator) (robot : Robot) (leg : Leg)
    (joints : PerJoint JointTarget) (limit : Single) :
    (output.command robot leg joints limit).formal = output.formal := by
  unfold command
  split <;> rfl

theorem ToSimulator.faultText?_of_fault {output other : ToSimulator}
    (same : output.fault = other.fault) : output.faultText? = other.faultText? := by
  unfold faultText?
  rw [same]

end Message

namespace Controller

theorem Stand.formal_commandLegs (c : Stand) (p : Stand.Plan) (robot : Robot) (input : ToRobot)
    (legs : List Leg) (output : ToSimulator) :
    (c.commandLegs p robot input legs output).2.formal = output.formal := by
  induction legs generalizing output with
  | nil => rfl
  | cons leg rest ih =>
    simp only [commandLegs]
    split
    · rw [ih, ToSimulator.formal_command]
    · rfl

theorem formal_run (c : Controller) (robot : Robot) (parameters : Table) (input : ToRobot)
    (output : ToSimulator) :
    (c.run robot parameters input output).2.2.formal = output.formal := by
  cases c with
  | passive => rfl
  | stand c =>
    simp only [run, Stand.run]
    cases c.plan parameters with
    | error e => rfl
    | ok p =>
      have kept := c.formal_commandLegs p robot input (List.finRange legCount) output
      dsimp only
      split
      next legs =>
        rw [legs] at kept
        exact kept
      next legs =>
        rw [legs] at kept
        exact kept

theorem report_run (c : Controller) (robot : Robot) (parameters : Table) (input : ToRobot)
    (output : ToSimulator) :
    (c.run robot parameters input output).2.2.report = output.report :=
  congrArg Prod.snd (c.formal_run robot parameters input output)

theorem robotCode_run (c : Controller) (robot : Robot) (parameters : Table) (input : ToRobot)
    (output : ToSimulator) :
    (c.run robot parameters input output).2.2.robotCode = output.robotCode :=
  congrArg Prod.fst (c.formal_run robot parameters input output)

end Controller

namespace Bridge

/-- A part of a turn that leaves the report alone and fails for no fault of the simulator's. -/
structure Keeps {β : Type} (x : Serving β) (t : Turn) : Prop where
  report : (x.run t).2.output.report = t.output.report
  own : ∀ e, (x.run t).1 = .error e → ¬ e.Breach

namespace Keeps

variable {β γ : Type} {t : Turn}

theorem pure (b : β) : Keeps (Pure.pure b) t := ⟨rfl, fun _ failed => by cases failed⟩

theorem modify {f : Turn → Turn} (kept : (f t).output.report = t.output.report) :
    Keeps (modify f) t := ⟨kept, fun _ failed => by cases failed⟩

theorem set {t' : Turn} (kept : t'.output.report = t.output.report) :
    Keeps (set t') t := ⟨kept, fun _ failed => by cases failed⟩

theorem note (level : Level) (message : String) (fields : List (String × FieldValue)) :
    Keeps (Turn.note level message fields) t := modify rfl

theorem ofExcept {r : Except Error β} (own : ∀ e, r = .error e → ¬ e.Breach) :
    Keeps (Turn.ofExcept r) t := ⟨rfl, own⟩

theorem ofExcept_mapError {ε : Type} {r : Except ε β} {wrap : ε → Error}
    (own : ∀ cause, ¬ (wrap cause).Breach) : Keeps (Turn.ofExcept (r.mapError wrap)) t := by
  refine ofExcept fun e failed => ?_
  cases r with
  | error cause =>
    cases failed
    exact own cause
  | ok _ => cases failed

theorem bind {x : Serving β} {f : β → Serving γ} (first : Keeps x t)
    (rest : ∀ b t', x.run t = (.ok b, t') → Keeps (f b) t') : Keeps (x >>= f) t := by
  cases ran : x.run t with
  | mk result t' =>
    have kept := first.report
    have own := first.own
    rw [ran] at kept own
    dsimp only at kept own
    cases result with
    | error e =>
      refine ⟨?_, fun e' failed => ?_⟩
      · simpa only [run_bind, ran] using kept
      · simp only [run_bind, ran, Except.error.injEq] at failed
        exact own e' (congrArg Except.error failed)
    | ok b =>
      have next := rest b t' ran
      refine ⟨?_, fun e' failed => ?_⟩
      · simp only [run_bind, ran]
        exact next.report.trans kept
      · simp only [run_bind, ran] at failed
        exact next.own e' failed

theorem get_bind {f : Turn → Serving γ} (rest : Keeps (f t) t) : Keeps (get >>= f) t :=
  bind ⟨rfl, fun _ failed => by cases failed⟩ fun _ _ ran => by cases ran; exact rest

end Keeps

namespace Turn

@[simp] theorem run_ofExcept {β : Type} (r : Except Error β) (t : Turn) :
    (ofExcept r).run t = (r, t) := rfl

@[simp] theorem run_note (level : Level) (message : String) (fields : List (String × FieldValue))
    (t : Turn) : (note level message fields).run t =
      (.ok (), { t with records := t.records ++ [⟨level, message, fields⟩] }) := rfl

theorem keeps_prepare (input : ToRobot) (t : Turn) : Keeps (prepare input) t := by
  unfold prepare
  refine .get_bind ?_
  refine .bind (.ofExcept_mapError fun _ => id) fun _ _ _ => ?_
  dsimp only
  -- What is left is notes, changes of the program and refusals of its tables.
  repeat' first
    | exact .note _ _ _
    | exact .modify rfl
    | exact .pure _
    | exact .ofExcept_mapError fun _ => id
    | refine .bind ?_ fun _ _ _ => ?_
    | split

theorem keeps_runController (input : ToRobot) (t : Turn) : Keeps (runController input) t := by
  have runs (t : Turn) := t.program.controller.report_run t.program.robot t.program.parameters input
    t.output
  unfold runController
  refine .get_bind ?_
  dsimp only
  split
  · refine .bind (keeps_prepare input t) fun _ t _ => .get_bind ?_
    exact .bind (.set (runs t)) fun _ _ _ => .ofExcept_mapError fun _ => id
  · refine .get_bind ?_
    exact .bind (.set (runs t)) fun _ _ _ => .ofExcept_mapError fun _ => id

theorem run_confirm (declared : UInt32) (t : Turn) :
    (∃ records, (confirm declared).run t =
      (.ok (), ⟨{ t.program with confirmed := true }, t.output, records⟩)) ∨
    (confirm declared).run t = (.error (.robotMismatch t.program.robot declared), t) := by
  unfold confirm
  cases confirmed : t.program.confirmed with
  | true =>
    have same : { t.program with confirmed := true } = t.program := by rw [← confirmed]
    refine .inl ⟨t.records, ?_⟩
    rw [same]
    simp [confirmed]
  | false =>
    by_cases right : Robot.ofCode? declared = some t.program.robot
    · left
      simp [confirmed, right]
      exact ⟨_, rfl⟩
    · right
      simp [confirmed, right]

theorem run_applyParameters (input : ToRobot) (t : Turn) :
    (∃ e, respond input.request t.output.response t.program.parameters t.program.controller.user? =
        .error e ∧ (applyParameters input).run t = (.error e, t)) ∨
    ∃ answer, respond input.request t.output.response t.program.parameters
        t.program.controller.user? = .ok answer ∧
      ((applyParameters input).run t).1 = .ok () ∧
      ((applyParameters input).run t).2.output.report = ⟨answer.response, t.output.fault⟩ := by
  unfold applyParameters
  cases responded : respond input.request t.output.response t.program.parameters
      t.program.controller.user? with
  | error e =>
    refine .inl ⟨e, rfl, ?_⟩
    simp only [run_bind, run_get, responded, run_ofExcept]
  | ok answer =>
    refine .inr ⟨answer, rfl, ?_⟩
    simp only [run_bind, run_get, responded, run_ofExcept, run_set]
    exact ⟨trivial, rfl⟩

end Turn

def Program.respond (p : Program) (m : Message) : Except Error Answer :=
  Bridge.respond m.toRobot.request m.toSimulator.response p.parameters p.controller.user?

/-- How a turn on a message can end. -/
inductive Program.Serves (p : Program) (m : Message) : Except Error Mode × Turn → Prop where
  | fails {e : Error} {t : Turn} : ¬ e.Breach →
      t.output.report = m.toSimulator.report → Serves p m (.error e, t)
  | refuses {e : Error} {t : Turn} : m.mode? = some .applyParameters → p.respond m = .error e →
      t.output.report = m.toSimulator.report → Serves p m (.error e, t)
  | keeps {mode : Mode} {t : Turn} : m.mode? = some mode → mode ≠ .applyParameters →
      t.output.report = m.toSimulator.report → Serves p m (.ok mode, t)
  | answers {answer : Answer} {t : Turn} : m.mode? = some .applyParameters →
      p.respond m = .ok answer → t.output.report = ⟨answer.response, m.toSimulator.fault⟩ →
      Serves p m (.ok .applyParameters, t)

theorem Program.serve_serves (p : Program) (m : Message) : p.Serves m (p.serve m) := by
  unfold Program.serve Turn.serve
  simp only [run_bind]
  obtain ⟨records, ran⟩ | ran := Turn.run_confirm m.toRobot.robotCode ⟨p, m.toSimulator, []⟩
  case inr =>
    rw [ran]
    exact .fails id rfl
  simp only [ran, Turn.declareRobot, run_modify, Turn.decodeMode]
  cases decoded : Mode.ofCode? m.toRobot.modeCode with
  | none => exact .fails id rfl
  | some mode =>
    simp only [run_pure]
    generalize opened : (⟨_, _, _⟩ : Turn) = t
    have program : t.program = { p with confirmed := true } := by rw [← opened]
    have report : t.output.report = m.toSimulator.report := by
      rw [← opened]
      rfl
    have response : t.output.response = m.toSimulator.response := congrArg Report.response report
    cases mode with
    | applyParameters =>
      have same : Bridge.respond m.toRobot.request t.output.response t.program.parameters
          t.program.controller.user? = p.respond m := by
        rw [program, response]
        rfl
      have cases := Turn.run_applyParameters m.toRobot t
      rw [same] at cases
      have fault : t.output.fault = m.toSimulator.fault := congrArg Report.fault report
      rw [fault] at cases
      simp only [run_bind]
      generalize (Turn.applyParameters m.toRobot).run t = ran at cases ⊢
      obtain ⟨e, refused, rfl⟩ | ⟨answer, answered, went, said⟩ := cases
      · exact .refuses decoded refused report
      · obtain ⟨result, t'⟩ := ran
        cases went
        exact .answers decoded answered said
    | runController =>
      have kept := (Turn.keeps_runController m.toRobot t).report
      have own := (Turn.keeps_runController m.toRobot t).own
      simp only [run_bind]
      generalize (Turn.runController m.toRobot).run t = ran at kept own ⊢
      obtain ⟨e | _, t'⟩ := ran
      · exact .fails (own e rfl) (kept.trans report)
      · exact .keeps decoded (by decide) (kept.trans report)
    | idle => exact .keeps decoded (by decide) report
    | exit => exact .keeps decoded (by decide) report

end Bridge

end Lockstep
