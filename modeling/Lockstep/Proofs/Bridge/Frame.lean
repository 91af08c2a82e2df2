import Lockstep.Proofs.Bridge.Turn
import Lockstep.Proofs.Controller.Stand

/-! What a turn leaves alone in the program that serves it, and what it can fail with.

Only a turn that answers a request reaches the tables or the counts, and it does
so last of all. A turn that fails has left them as they were.
-/

set_option autoImplicit false

namespace Lockstep

open Message Parameter Effect

namespace Bridge

structure Program.Kept (p q : Program) : Prop where
  robot : q.robot = p.robot
  parameters : q.parameters = p.parameters
  user : q.controller.user? = p.controller.user?
  stats : q.stats = p.stats

theorem Program.Kept.refl (p : Program) : p.Kept p := ⟨rfl, rfl, rfl, rfl⟩

/-- What a turn can fail with. -/
inductive Program.Cause (p : Program) (input : ToRobot) : Error → Prop where
  | robot : Cause p input (.robotMismatch p.robot input.robotCode)
  | mode : Cause p input (.unknownMode input.modeCode)
  | request {response : Response} {e : Error} :
      Bridge.respond input.request response p.parameters p.controller.user? = .error e →
      Cause p input e
  | parameters {refusal : Table.Refusal} : p.parameters.requireComplete = .error refusal →
      Cause p input (.table refusal)
  | user {user : Table} {refusal : Table.Refusal} : p.controller.user? = some user →
      user.requireComplete = .error refusal → Cause p input (.table refusal)
  | controller {cause : Controller.Error} : cause.Own → Cause p input (.controller cause)

structure Program.Stays {β : Type} (p : Program) (input : ToRobot) (r : Except Error β)
    (t : Turn) : Prop where
  kept : p.Kept t.program
  cause : ∀ e, r = .error e → p.Cause input e

theorem Program.Stays.error {β γ : Type} {p : Program} {input : ToRobot} {e : Error} {t : Turn}
    (stays : p.Stays input (.error e : Except Error β) t) :
    p.Stays input (.error e : Except Error γ) t := by
  refine ⟨stays.kept, fun e' failed => ?_⟩
  cases failed
  exact stays.cause e rfl

namespace Turn

/-- A part of a turn that leaves a program's tables and counts alone, however it
ends, and fails with nothing that a turn cannot fail with. -/
def Spares {β : Type} (p : Program) (input : ToRobot) (x : Serving β) : Prop :=
  ∀ t : Turn, p.Kept t.program → Ends x t (p.Stays input)

namespace Spares

variable {β γ : Type} {p : Program} {input : ToRobot}

theorem pure (b : β) : Spares p input (Pure.pure b) := fun _ kept => ⟨kept, nofun⟩

theorem throw {e : Error} (cause : p.Cause input e) : Spares p input (throw e : Serving β) := by
  intro t kept
  refine ⟨kept, fun e' failed => ?_⟩
  cases failed
  exact cause

theorem ofExcept {r : Except Error β} (cause : ∀ e, r = .error e → p.Cause input e) :
    Spares p input (Turn.ofExcept r) := fun _ kept => ⟨kept, cause⟩

theorem ofExcept_mapError {ε : Type} {r : Except ε β} {wrap : ε → Error}
    (cause : ∀ e, r = .error e → p.Cause input (wrap e)) :
    Spares p input (Turn.ofExcept (r.mapError wrap)) := by
  refine ofExcept fun e failed => ?_
  obtain ⟨e', refused, rfl⟩ := mapError_error failed
  exact cause e' refused

theorem note (level : Level) (message : String) (fields : List (String × FieldValue)) :
    Spares p input (Turn.note level message fields) := fun _ kept => ⟨kept, nofun⟩

theorem modify {f : Turn → Turn} (keeps : ∀ t, p.Kept t.program → p.Kept (f t).program) :
    Spares p input (modify f) := fun t kept => ⟨keeps t kept, nofun⟩

theorem set {t : Turn} (kept : p.Kept t.program) : Spares p input (set t) :=
  fun _ _ => ⟨kept, nofun⟩

theorem bind {x : Serving β} {f : β → Serving γ} (first : Spares p input x)
    (rest : ∀ b, Spares p input (f b)) : Spares p input (x >>= f) := by
  intro t kept
  apply (first t kept).bind
  · exact fun e t' stays => stays.error
  · exact fun b t' stays => rest b t' stays.kept

theorem get_bind {f : Turn → Serving γ} (rest : ∀ t, p.Kept t.program → Spares p input (f t)) :
    Spares p input (get >>= f) :=
  fun t kept => .step (run_get t) (rest t kept t kept)

end Spares

variable {p : Program} {input : ToRobot}

theorem spares_confirm : Spares p input (confirm input.robotCode) := by
  intro t kept
  obtain ⟨records, ran⟩ | ran := run_confirm input.robotCode t
  · exact .of_run ran ⟨⟨kept.robot, kept.parameters, kept.user, kept.stats⟩, nofun⟩
  · refine .of_run ran ⟨kept, fun e failed => ?_⟩
    cases failed
    rw [kept.robot]
    exact .robot

theorem spares_decodeMode : Spares p input (decodeMode input.modeCode) := by
  unfold decodeMode
  split
  · exact .pure _
  · exact .throw .mode

theorem spares_prepare : Spares p input (prepare input) := by
  have finished : Spares p input (modify fun t : Turn =>
      { t with program := { t.program with ready := true } }) :=
    .modify fun _ kept => ⟨kept.robot, kept.parameters, kept.user, kept.stats⟩
  unfold prepare
  refine .get_bind fun t kept => .bind (.ofExcept_mapError fun e failed => ?_) fun _ => ?_
  · rw [kept.parameters] at failed
    exact .parameters failed
  have user := (t.program.controller.user?_prepare t.program.robot input).trans kept.user
  have own (e : Controller.Error)
      (failed : (t.program.controller.prepare t.program.robot input).1 = .error e) : e.Own :=
    Controller.prepare_error failed
  generalize t.program.controller.prepare t.program.robot input = prepared at user own ⊢
  obtain ⟨result, controller⟩ := prepared
  dsimp only
  split
  case' h_1 => refine .bind (.pure _) fun _ => ?_
  case' h_2 table has =>
    rw [kept.user] at has
    refine .bind (.ofExcept_mapError fun _ => .user has) fun _ => .bind (.pure _) fun _ => ?_
  -- The rest is the same with parameters of the controller's own and without.
  all_goals
    refine .bind (.note _ _ _) fun _ => .bind (.modify fun t' kept' => ?_) fun _ =>
      .bind (.ofExcept_mapError fun e failed => .controller (own e failed)) fun _ => ?_
    · exact ⟨kept'.robot, kept'.parameters, user, kept'.stats⟩
    split
    · exact .bind (.note _ _ _) fun _ => finished
    · exact finished

theorem spares_runController : Spares p input (runController input) := by
  unfold runController
  refine .get_bind fun t _ => ?_
  split
  case' isTrue => refine .bind spares_prepare fun _ => ?_
  -- The iteration is the same with preparing before it and without.
  all_goals
    refine .get_bind fun t kept => .bind (.set ?_) fun _ => .ofExcept_mapError fun e failed => ?_
    · exact ⟨kept.robot, kept.parameters, (Controller.user?_run _ _ _ _ _).trans kept.user,
        kept.stats⟩
    · exact .controller (Controller.run_error failed)

theorem applyParameters_ends {t : Turn} (kept : p.Kept t.program) :
    Ends (applyParameters input) t fun r t' => r = .ok () ∨ p.Stays input r t' := by
  obtain ⟨e, refused, ran⟩ | ⟨answer, -, ran, -⟩ := run_applyParameters input t
  · refine .of_run ran (.inr ⟨kept, fun e' failed => ?_⟩)
    cases failed
    rw [kept.parameters, kept.user] at refused
    exact .request refused
  · exact .inl ran

theorem serve_ends {t : Turn} (kept : p.Kept t.program) :
    Ends (serve input) t fun r t' => r = .ok .applyParameters ∨ p.Stays input r t' := by
  unfold serve
  apply (spares_confirm t kept).bind fun e t stays => .inr stays.error
  intro _ t stays
  have declared : Spares p input declareRobot := .modify fun _ kept => kept
  apply (declared t stays.kept).bind fun e t stays => .inr stays.error
  intro _ t stays
  apply (spares_decodeMode t stays.kept).bind fun e t stays => .inr stays.error
  intro mode t stays
  cases mode with
  | applyParameters =>
    refine (applyParameters_ends stays.kept).bind (fun e t ended => ?_) fun _ _ _ => .inl rfl
    obtain went | stays := ended
    · cases went
    · exact .inr stays.error
  | runController =>
    apply (spares_runController t stays.kept).bind fun e t stays => .inr stays.error
    exact fun _ _ stays => .inr ⟨stays.kept, nofun⟩
  | idle => exact .inr ⟨stays.kept, nofun⟩
  | exit => exact .inr ⟨stays.kept, nofun⟩

end Turn

variable {p : Program} {m : Message}

/-- A turn in which no request was answered leaves tables and counts alone, and if
it fails it does so for one of the known causes. -/
theorem Program.serve_stays {r : Except Error Mode} {t : Turn} (served : p.serve m = (r, t))
    (other : r ≠ .ok .applyParameters) : p.Stays m.toRobot r t := by
  have ends : Ends (Turn.serve m.toRobot) ⟨p, m.toSimulator, []⟩ fun r t =>
      r = .ok .applyParameters ∨ p.Stays m.toRobot r t := Turn.serve_ends (.refl p)
  unfold Ends at ends
  unfold serve at served
  rw [served] at ends
  exact ends.resolve_left other

theorem Program.serve_report {e : Error} {t : Turn} (failed : p.serve m = (.error e, t)) :
    t.output.report = m.toSimulator.report := by
  have serves := p.serve_serves m
  rw [failed] at serves
  cases serves with
  | fails _ same => exact same
  | refuses _ _ same => exact same

end Bridge

end Lockstep
