import Lockstep.Proofs.Bridge.Turn

/-! A turn under watch: what it does, and which calls of the controller it makes.

The watched turn is the turn with a list beside it, on which each call is put
down with the tables that the controller could see and how the call ended.
Without the list it is the turn again.
-/

set_option autoImplicit false

namespace Lockstep.Bridge

open Message Parameter Effect

inductive Part where
  | prepare
  | run
  deriving DecidableEq, Repr

structure ControllerCall where
  part : Part
  parameters : Table
  user? : Option Table
  result : Except Controller.Error Unit

/-- A turn at work and the calls that were made in it. -/
structure Watch where
  turn : Turn
  calls : List ControllerCall

abbrev Watching := ExceptT Error (StateM Watch)

namespace Watch

variable {β γ : Type}

def serving (x : Serving β) : Watching β := ExceptT.mk fun w =>
  ((x.run w.turn).1, { w with turn := (x.run w.turn).2 })

def called (call : ControllerCall) : Watching Unit :=
  modify fun w => { w with calls := w.calls ++ [call] }

def preparing (input : ToRobot) (p : Program) (userCount : Nat) : Watching Unit := do
  let all := p.parameters.size + userCount
  serving (Turn.note .info s!"All {all} control parameters are initialized"
    [("robot_parameters", .number p.parameters.size), ("user_parameters", .number userCount)])
  let (result, controller) := p.controller.prepare p.robot input
  called ⟨.prepare, p.parameters, p.controller.user?, result⟩
  serving do
    modify fun t => { t with program := { t.program with controller := controller } }
    Turn.ofExcept (result.mapError .controller)
    if let .stand _ := controller then
      Turn.note .info "Joint PD stand controller initialized" [("robot", .text p.robot.label)]
    modify fun t => { t with program := { t.program with ready := true } }

def prepare (input : ToRobot) : Watching Unit := do
  let p := (← serving get).program
  serving (Turn.ofExcept (p.parameters.requireComplete.mapError .table))
  let userCount ← match p.controller.user? with
    | none => pure 0
    | some user => do
      serving (Turn.ofExcept (user.requireComplete.mapError .table))
      pure user.size
  preparing input p userCount

def runController (input : ToRobot) : Watching Unit := do
  if !(← serving get).program.ready then prepare input
  let t ← serving get
  let p := t.program
  let (result, controller, output) := p.controller.run p.robot p.parameters input t.output
  called ⟨.run, p.parameters, p.controller.user?, result⟩
  serving do
    set { t with program := { p with controller := controller }, output := output }
    Turn.ofExcept (result.mapError .controller)

def serve (input : ToRobot) : Watching Mode := do
  serving (Turn.confirm input.robotCode)
  serving Turn.declareRobot
  let mode ← serving (Turn.decodeMode input.modeCode)
  match mode with
  | .applyParameters => serving (Turn.applyParameters input)
  | .runController => runController input
  | .idle => serving (Turn.note .debug "Idle turn" [])
  | .exit => serving (Turn.note .info "Exit requested by the simulator" [])
  return mode

@[simp] theorem run_serving (x : Serving β) (w : Watch) :
    (serving x).run w = ((x.run w.turn).1, { w with turn := (x.run w.turn).2 }) := rfl

@[simp] theorem run_called (call : ControllerCall) (w : Watch) :
    (called call).run w = (.ok (), { w with calls := w.calls ++ [call] }) := rfl

/-- One that does to the turn just what another does, whatever it puts down. -/
def Shows (x : Watching β) (y : Serving β) : Prop :=
  ∀ w, (x.run w).1 = (y.run w.turn).1 ∧ (x.run w).2.turn = (y.run w.turn).2

namespace Shows

theorem pure (b : β) : Shows (Pure.pure b) (Pure.pure b) := fun _ => ⟨rfl, rfl⟩

theorem serving (y : Serving β) : Shows (Watch.serving y) y := fun _ => ⟨rfl, rfl⟩

theorem bind {x : Watching β} {y : Serving β} {f : β → Watching γ} {g : β → Serving γ}
    (first : Shows x y) (rest : ∀ b, Shows (f b) (g b)) : Shows (x >>= f) (y >>= g) := by
  intro w
  obtain ⟨result, turn⟩ := first w
  simp only [run_bind]
  generalize x.run w = ran at result turn ⊢
  obtain ⟨r, w'⟩ := ran
  generalize y.run w.turn = ranToo at result turn ⊢
  obtain ⟨r', t'⟩ := ranToo
  obtain rfl : r = r' := result
  obtain rfl : w'.turn = t' := turn
  cases r with
  | error e => exact ⟨rfl, rfl⟩
  | ok b => exact rest b w'

theorem called (call : ControllerCall) {x : Watching β} {y : Serving β} (rest : Shows x y) :
    Shows (Watch.called call >>= fun _ => x) y :=
  fun w => rest { w with calls := w.calls ++ [call] }

end Shows

theorem shows_prepare (input : ToRobot) : Shows (prepare input) (Turn.prepare input) := by
  unfold prepare Turn.prepare
  apply (Shows.serving _).bind
  intro t
  apply (Shows.serving _).bind
  intro _
  dsimp only
  generalize t.program.controller.user? = user?
  cases user? with
  | none =>
    apply (Shows.pure _).bind
    intro _
    apply (Shows.serving _).bind
    intro _
    exact .called _ (.serving _)
  | some user =>
    apply (Shows.serving _).bind
    intro _
    apply (Shows.pure _).bind
    intro _
    apply (Shows.serving _).bind
    intro _
    exact .called _ (.serving _)

theorem shows_runController (input : ToRobot) :
    Shows (runController input) (Turn.runController input) := by
  have iterate : Shows
      (do
        let t ← serving get
        let p := t.program
        let (result, controller, output) := p.controller.run p.robot p.parameters input t.output
        called ⟨.run, p.parameters, p.controller.user?, result⟩
        serving do
          set { t with program := { p with controller := controller }, output := output }
          Turn.ofExcept (result.mapError .controller))
      (do
        let t ← get
        let p := t.program
        let (result, controller, output) := p.controller.run p.robot p.parameters input t.output
        set { t with program := { p with controller := controller }, output := output }
        Turn.ofExcept (result.mapError .controller)) := by
    apply (Shows.serving _).bind
    intro t
    exact .called _ (.serving _)
  unfold runController Turn.runController
  apply (Shows.serving _).bind
  intro t
  dsimp only
  split
  · exact (shows_prepare input).bind fun _ => iterate
  · exact iterate

theorem shows_serve (input : ToRobot) : Shows (serve input) (Turn.serve input) := by
  unfold serve Turn.serve
  apply (Shows.serving _).bind
  intro _
  apply (Shows.serving _).bind
  intro _
  apply (Shows.serving _).bind
  intro mode
  cases mode with
  | applyParameters => exact (Shows.serving _).bind fun _ => .pure _
  | runController => exact (shows_runController input).bind fun _ => .pure _
  | idle => exact (Shows.serving _).bind fun _ => .pure _
  | exit => exact (Shows.serving _).bind fun _ => .pure _

def iterated (input : ToRobot) (w : Watch) : Except Error Unit × Watch :=
  let p := w.turn.program
  let (result, controller, output) := p.controller.run p.robot p.parameters input w.turn.output
  (result.mapError .controller,
    ⟨{ w.turn with program := { p with controller := controller }, output := output },
      w.calls ++ [⟨.run, p.parameters, p.controller.user?, result⟩]⟩)

theorem run_runController (input : ToRobot) (w : Watch) : (runController input).run w =
    if w.turn.program.ready then iterated input w
    else match (prepare input).run w with
      | (.ok (), w) => iterated input w
      | (.error e, w) => (.error e, w) := by
  unfold runController iterated
  cases ready : w.turn.program.ready with
  | true => simp [ready]
  | false =>
    simp only [run_bind, run_serving, run_get, ready, Bool.not_false, if_true, Bool.false_eq_true,
      if_false]
    rcases (prepare input).run w with ⟨_ | _, w'⟩ <;> simp

end Watch

def Program.requireComplete (p : Program) : Except Table.Refusal Unit := do
  p.parameters.requireComplete
  match p.controller.user? with
  | none => return
  | some user => user.requireComplete

section

variable {input : ToRobot} {w : Watch} {controller : Controller}

theorem Watch.run_preparing_error {e : Controller.Error} (failed :
      w.turn.program.controller.prepare w.turn.program.robot input = (.error e, controller))
    (userCount : Nat) :
    ∃ records, (preparing input w.turn.program userCount).run w = (.error (.controller e),
      ⟨⟨{ w.turn.program with controller := controller }, w.turn.output, records⟩,
        w.calls ++ [⟨.prepare, w.turn.program.parameters, w.turn.program.controller.user?,
          .error e⟩]⟩) := by
  simp only [preparing, failed]
  exact ⟨_, rfl⟩

theorem Watch.run_preparing_ok (prepared :
      w.turn.program.controller.prepare w.turn.program.robot input = (.ok (), controller))
    (userCount : Nat) :
    ∃ records, (preparing input w.turn.program userCount).run w = (.ok (),
      ⟨⟨{ w.turn.program with controller := controller, ready := true }, w.turn.output, records⟩,
        w.calls ++ [⟨.prepare, w.turn.program.parameters, w.turn.program.controller.user?,
          .ok ()⟩]⟩) := by
  simp only [preparing, prepared]
  cases controller with
  | passive => exact ⟨_, rfl⟩
  | stand c => exact ⟨_, rfl⟩

end

theorem Watch.run_prepare (input : ToRobot) (w : Watch) :
    (∃ refusal, w.turn.program.requireComplete = .error refusal ∧
      (prepare input).run w = (.error (.table refusal), w)) ∨
    w.turn.program.requireComplete = .ok () ∧ ∃ userCount,
      (prepare input).run w = (preparing input w.turn.program userCount).run w := by
  simp only [prepare, Program.requireComplete, run_bind, run_serving, run_get, Turn.run_ofExcept]
  cases w.turn.program.parameters.requireComplete with
  | error refusal => exact .inl ⟨refusal, rfl, rfl⟩
  | ok _ =>
    cases w.turn.program.controller.user? with
    | none => exact .inr ⟨rfl, 0, rfl⟩
    | some user =>
      cases complete : user.requireComplete with
      | error refusal =>
        refine .inl ⟨refusal, complete, ?_⟩
        simp [complete, Except.mapError]
      | ok _ =>
        refine .inr ⟨complete, user.size, ?_⟩
        simp [complete, Except.mapError]

end Lockstep.Bridge
