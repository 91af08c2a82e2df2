import Lockstep.Proofs.Bridge.Applied
import Lockstep.Proofs.Bridge.Failure
import Lockstep.Proofs.Bridge.Watched
import Lockstep.Proofs.Controller.Stand

/-! Which parameters a controller runs on.

They are asked for once only, before the controller is prepared. It is enough,
since nothing that a simulator requests takes a parameter away, gives it another
kind or makes it one that was never written.
-/

set_option autoImplicit false

namespace Lockstep

open Message Parameter Effect

namespace Bridge

section

variable {q : Request} {r : Response} {kind : RequestKind} {name : String} {valueKind : Kind}
  {t t' : Table} {value : Value}

theorem serveRequest_ripens (ordered : t.Ordered)
    (served : serveRequest q kind name valueKind t = .ok (value, t')) : t.Ripens t' := by
  cases found : t.lookup? name with
  | none => cases (serveRequest_unknown found).symm.trans served
  | some entry =>
    by_cases same : entry.kind = valueKind
    case neg => cases (serveRequest_mismatch found same).symm.trans served
    cases writes : kind.writes with
    | true =>
      cases (serveRequest_write found same writes).symm.trans served
      exact .set ordered (Table.set_of_lookup found (by simpa using same))
    | false =>
      cases (serveRequest_read found same writes).symm.trans served
      exact .refl t

theorem respond_ripens {user : Table} {answer : Answer} (ordered : t.Ordered)
    (orderedUser : user.Ordered) (answered : respond q r t (some user) = .ok answer) :
    t.Ripens answer.robot ∧ ∃ user', answer.user? = some user' ∧ user.Ripens user' := by
  by_cases old : q.number ≤ r.number
  · cases (respond_old old t (some user)).symm.trans answered
    exact ⟨.refl t, user, rfl, .refl user⟩
  obtain ⟨kind, name, valueKind, fresh⟩ := fresh_of_respond old answered
  cases own : kind.user with
  | false =>
    rw [respond_robot fresh t own] at answered
    obtain ⟨⟨value, t'⟩, served, rfl⟩ := map_ok answered
    exact ⟨serveRequest_ripens ordered served, user, rfl, .refl user⟩
  | true =>
    rw [respond_user fresh t own] at answered
    obtain ⟨⟨value, user'⟩, served, rfl⟩ := map_ok answered
    exact ⟨.refl t, user', rfl, serveRequest_ripens orderedUser served⟩

end

/-- A program with a standing controller, on the tables that are declared for it:
complete ones from the time on when the controller was prepared. -/
structure Program.Outfitted (p : Program) (user : Table) (n : Nat) : Prop where
  has : p.controller.user? = some user
  iterations : p.controller.iterations? = some n
  declares : Table.robot.Ripens p.parameters
  declaresUser : Controller.Stand.fresh.user.Ripens user
  complete : p.ready = true → p.parameters.isComplete = true ∧ user.isComplete = true
  idle : p.ready = false → n = 0

/-- A call that found nothing missing and no parameter at fault. -/
structure ControllerCall.Sound (call : ControllerCall) : Prop where
  parameters : call.parameters.isComplete = true
  user : ∃ user, call.user? = some user ∧ user.isComplete = true
  result : ∀ name kind, call.result ≠ .error (.parameter name kind)

/-- Calls of a controller that is prepared first, unless it was before, and once. -/
def InOrder (ready : Bool) : List ControllerCall → Prop
  | [] => True
  | first :: rest =>
    first.part = (if ready then .run else .prepare) ∧ ∀ call ∈ rest, call.part = .run

theorem ordered_user : Controller.Stand.fresh.user.Ordered := by decide +kernel

theorem Program.Outfitted.lacking {p : Program} {user : Table} {n : Nat}
    (outfitted : p.Outfitted user n) :
    p.requireComplete = if p.parameters.isComplete = false then
        .error (.incomplete p.parameters.label p.parameters.uninitialized)
      else if user.isComplete = false then .error (.incomplete user.label user.uninitialized)
      else .ok () := by
  unfold requireComplete
  cases complete : p.parameters.isComplete with
  | false =>
    rw [Table.requireComplete_of_incomplete complete]
    rfl
  | true =>
    rw [Table.requireComplete_of_complete complete, outfitted.has]
    cases completeUser : user.isComplete with
    | false => exact Table.requireComplete_of_incomplete completeUser
    | true => exact Table.requireComplete_of_complete completeUser

theorem Program.Outfitted.complete_of_ok {p : Program} {user : Table} {n : Nat}
    (outfitted : p.Outfitted user n) (enough : p.requireComplete = .ok ()) :
    p.parameters.isComplete = true ∧ user.isComplete = true := by
  rw [outfitted.lacking] at enough
  split at enough
  · cases enough
  split at enough
  · cases enough
  next complete completeUser => exact ⟨by simpa using complete, by simpa using completeUser⟩

structure Program.Went {β : Type} (p : Program) (n : Nat) (r : Except Error β) (w : Watch) :
    Prop where
  outfitted : ∃ user, w.turn.program.Outfitted user n
  robot : w.turn.program.robot = p.robot
  counted : w.turn.program.stats.controllerTurns = p.stats.controllerTurns
  sound : ∀ call ∈ w.calls, call.Sound
  ordered : InOrder p.ready w.calls
  ready : (w.calls = [] ∧ w.turn.program.ready = p.ready) ∨
    (w.calls ≠ [] ∧ w.turn.program.ready = true) ∨ ∃ e, r = .error e

theorem Turn.applyParameters_outfits {t : Turn} {user : Table} {n : Nat}
    (outfitted : t.program.Outfitted user n) (input : ToRobot) :
    ∃ user' r t', (applyParameters input).run t = (r, t') ∧ t'.program.Outfitted user' n ∧
      t'.program.robot = t.program.robot ∧
      t'.program.stats.controllerTurns = t.program.stats.controllerTurns ∧
      t'.program.ready = t.program.ready := by
  cases responded : respond input.request t.output.response t.program.parameters
      t.program.controller.user? with
  | error e =>
    refine ⟨user, .error e, t, ?_, outfitted, rfl, rfl, rfl⟩
    simp only [applyParameters, run_bind, run_get, responded, run_ofExcept]
  | ok answer =>
    have ordered := outfitted.declares.ordered Table.ordered_robot
    have orderedUser := outfitted.declaresUser.ordered ordered_user
    have answered := responded
    rw [outfitted.has] at answered
    obtain ⟨ripens, user', has, ripensUser⟩ := respond_ripens ordered orderedUser answered
    simp only [applyParameters, run_bind, run_get, responded, run_ofExcept, run_set, has]
    refine ⟨user', _, _, rfl, ?_, rfl, ?_, rfl⟩
    · constructor
      case has => exact Controller.user?_setUser outfitted.has user'
      case iterations => exact (Controller.iterations?_setUser _ user').trans outfitted.iterations
      case declares => exact outfitted.declares.trans ripens
      case declaresUser => exact outfitted.declaresUser.trans ripensUser
      case complete =>
        intro ready
        obtain ⟨complete, completeUser⟩ := outfitted.complete ready
        exact ⟨ripens.complete complete, ripensUser.complete completeUser⟩
      case idle => exact outfitted.idle
    · dsimp only
      split
      · rfl
      · rfl

theorem Program.Went.of_idle {β : Type} {p q : Program} {user : Table} {n : Nat}
    {r : Except Error β} {output : ToSimulator} {records : List Record}
    (outfitted : q.Outfitted user n) (robot : q.robot = p.robot)
    (counted : q.stats.controllerTurns = p.stats.controllerTurns) (ready : q.ready = p.ready) :
    p.Went n r ⟨⟨q, output, records⟩, []⟩ := by
  constructor
  case outfitted => exact ⟨user, outfitted⟩
  case robot => exact robot
  case counted => exact counted
  case sound => exact fun _ member => absurd member List.not_mem_nil
  case ordered => trivial
  case ready => exact .inl ⟨rfl, ready⟩

namespace Watch

variable {w : Watch} {user : Table} {n : Nat}

theorem iterated_went (outfitted : w.turn.program.Outfitted user n)
    (ready : w.turn.program.ready = true) (input : ToRobot) : ∃ r w' call, iterated input w = (r, w') ∧
      w'.calls = w.calls ++ [call] ∧ call.part = .run ∧ call.Sound ∧
      w'.turn.program.Outfitted user (if r = .ok () then n + 1 else n) ∧
      w'.turn.program.robot = w.turn.program.robot ∧
      w'.turn.program.stats = w.turn.program.stats ∧ w'.turn.program.ready = true := by
  obtain ⟨complete, completeUser⟩ := outfitted.complete ready
  have has := w.turn.program.controller.user?_run w.turn.program.robot w.turn.program.parameters
    input w.turn.output
  have counts := Controller.run_counts outfitted.has outfitted.iterations outfitted.declares
    outfitted.declaresUser w.turn.program.robot input w.turn.output
  simp only [iterated]
  generalize w.turn.program.controller.run w.turn.program.robot w.turn.program.parameters input
    w.turn.output = ran at has counts
  obtain ⟨result, controller, output⟩ := ran
  refine ⟨_, _, _, rfl, rfl, rfl, ⟨complete, ⟨user, outfitted.has, completeUser⟩, ?_⟩, ?_, rfl, rfl,
    ready⟩
  · obtain ⟨rfl, -⟩ | ⟨leg, rfl, -⟩ := counts
    · exact nofun
    · exact nofun
  · constructor
    case has => exact has.trans outfitted.has
    case iterations =>
      obtain ⟨rfl, count⟩ | ⟨leg, rfl, count⟩ := counts
      · exact count
      · exact count
    case declares => exact outfitted.declares
    case declaresUser => exact outfitted.declaresUser
    case complete => exact fun _ => ⟨complete, completeUser⟩
    case idle => exact fun unready => absurd (ready.symm.trans unready) Bool.noConfusion

/-- A controller that is not ready is prepared on complete tables, or not called at all. -/
theorem prepare_went (outfitted : w.turn.program.Outfitted user n) (fresh : w.calls = [])
    (unready : w.turn.program.ready = false) (input : ToRobot) :
    Ends (prepare input) w fun r w' => w.turn.program.Went 0 r w' ∧
      (r = .ok () → w'.turn.program.Outfitted user 0 ∧ w'.turn.program.ready = true ∧
        ∃ call, w'.calls = [call] ∧ call.part = .prepare) := by
  obtain rfl := outfitted.idle unready
  unfold Ends
  obtain ⟨refusal, -, ran⟩ | ⟨enough, userCount, ran⟩ := run_prepare input w
  · rw [ran]
    refine ⟨?_, nofun⟩
    constructor
    case outfitted => exact ⟨user, outfitted⟩
    case robot => rfl
    case counted => rfl
    case sound => simp [fresh]
    case ordered => simp [fresh, InOrder]
    case ready => exact .inl ⟨fresh, rfl⟩
  obtain ⟨complete, completeUser⟩ := outfitted.complete_of_ok enough
  have has := w.turn.program.controller.user?_prepare w.turn.program.robot input
  have counts := Controller.prepare_counts outfitted.has outfitted.iterations w.turn.program.robot
    input
  have sound (result : Except Controller.Error Unit)
      (own : ∀ name kind, result ≠ .error (.parameter name kind)) :
      (⟨.prepare, w.turn.program.parameters, w.turn.program.controller.user?, result⟩ :
        ControllerCall).Sound := ⟨complete, ⟨user, outfitted.has, completeUser⟩, own⟩
  rcases preparation : w.turn.program.controller.prepare w.turn.program.robot input with
    ⟨result, controller⟩
  rw [preparation] at has counts
  obtain ⟨succeeded, count⟩ | ⟨leg, failed, count⟩ := counts
  · obtain rfl : result = .ok () := succeeded
    obtain ⟨records, prepared⟩ := run_preparing_ok preparation userCount
    have outfits : Program.Outfitted ⟨w.turn.program.robot, controller, w.turn.program.parameters,
        w.turn.program.confirmed, true, w.turn.program.stats⟩ user 0 := by
      constructor
      case has => exact has.trans outfitted.has
      case iterations => exact count
      case declares => exact outfitted.declares
      case declaresUser => exact outfitted.declaresUser
      case complete => exact fun _ => ⟨complete, completeUser⟩
      case idle => exact fun _ => rfl
    rw [ran, prepared, fresh]
    refine ⟨?_, fun _ => ⟨outfits, rfl, _, rfl, rfl⟩⟩
    constructor
    case outfitted => exact ⟨user, outfits⟩
    case robot => rfl
    case counted => rfl
    case sound => simpa using sound (.ok ()) nofun
    case ordered => simp [unready, InOrder]
    case ready => exact .inr (.inl ⟨List.cons_ne_nil _ _, rfl⟩)
  · obtain rfl : result = .error (.nonFinite .position leg) := failed
    obtain ⟨records, prepared⟩ := run_preparing_error preparation userCount
    rw [ran, prepared, fresh]
    refine ⟨?_, nofun⟩
    constructor
    case outfitted =>
      exact ⟨user, has.trans outfitted.has, count, outfitted.declares, outfitted.declaresUser,
        fun _ => ⟨complete, completeUser⟩, fun _ => rfl⟩
    case robot => rfl
    case counted => rfl
    case sound => simpa using sound (.error (.nonFinite .position leg)) nofun
    case ordered => simp [unready, InOrder]
    case ready => exact .inr (.inr ⟨_, rfl⟩)

theorem runController_went (outfitted : w.turn.program.Outfitted user n) (fresh : w.calls = [])
    (input : ToRobot) : Ends (runController input) w fun r w' =>
      w.turn.program.Went (if r = .ok () then n + 1 else n) r w' := by
  unfold Ends
  rw [run_runController]
  cases ready : w.turn.program.ready with
  | true =>
    obtain ⟨r, w', call, ran, calls, part, sound, outfits, robot, stats, still⟩ :=
      iterated_went outfitted ready input
    rw [if_pos rfl, ran]
    rw [fresh, List.nil_append] at calls
    constructor
    case outfitted => exact ⟨user, outfits⟩
    case robot => exact robot
    case counted => rw [stats]
    case sound => simpa [calls] using sound
    case ordered => simp [calls, ready, InOrder, part]
    case ready => exact .inr (.inl ⟨by simp [calls], still⟩)
  | false =>
    obtain rfl := outfitted.idle ready
    have prepared := prepare_went outfitted fresh ready input
    unfold Ends at prepared
    rw [if_neg Bool.false_ne_true]
    generalize (prepare input).run w = ran at prepared ⊢
    obtain ⟨_ | _, w'⟩ := ran
    · exact prepared.1
    obtain ⟨went, next⟩ := prepared
    obtain ⟨outfits, still, first, calls, part⟩ := next rfl
    obtain ⟨r, w'', call, ran, callsToo, partToo, sound, outfitsToo, robot, stats, stillToo⟩ :=
      iterated_went outfits still input
    dsimp only at went calls callsToo robot stats ran ⊢
    simp only [ran]
    rw [calls] at callsToo
    constructor
    case outfitted => exact ⟨user, outfitsToo⟩
    case robot => exact robot.trans went.robot
    case counted => rw [stats, went.counted]
    case sound =>
      rw [callsToo]
      simpa [sound] using went.sound first (by simp [calls])
    case ordered => simp [callsToo, ready, InOrder, part, partToo]
    case ready => exact .inr (.inl ⟨by simp [callsToo], stillToo⟩)

theorem serve_went {p : Program} {m : Message} (outfitted : p.Outfitted user n) :
    Ends (serve m.toRobot) ⟨⟨p, m.toSimulator, []⟩, []⟩ fun r w =>
      p.Went (if r = .ok .runController then n + 1 else n) r w := by
  unfold serve
  obtain ⟨records, ran⟩ | refused := Turn.run_confirm m.toRobot.robotCode ⟨p, m.toSimulator, []⟩
  case inr =>
    have halted : (serving (Turn.confirm m.toRobot.robotCode)).run ⟨⟨p, m.toSimulator, []⟩, []⟩ =
        (.error (.robotMismatch p.robot m.toRobot.robotCode), ⟨⟨p, m.toSimulator, []⟩, []⟩) := by
      rw [run_serving, refused]
    exact .halt halted (.of_idle outfitted rfl rfl rfl)
  have confirmed : (serving (Turn.confirm m.toRobot.robotCode)).run ⟨⟨p, m.toSimulator, []⟩, []⟩ =
      (.ok (), ⟨⟨{ p with confirmed := true }, m.toSimulator, records⟩, []⟩) := by
    rw [run_serving, ran]
  apply Ends.step confirmed
  have outfits : Program.Outfitted { p with confirmed := true } user n :=
    ⟨outfitted.has, outfitted.iterations, outfitted.declares, outfitted.declaresUser,
      outfitted.complete, outfitted.idle⟩
  generalize declared : ({ m.toSimulator with robotCode := p.robot.code } : ToSimulator) = output
  have declares : (serving Turn.declareRobot).run
      ⟨⟨{ p with confirmed := true }, m.toSimulator, records⟩, []⟩ =
      (.ok (), ⟨⟨{ p with confirmed := true }, output, records⟩, []⟩) := by
    rw [← declared]
    rfl
  apply Ends.step declares
  generalize opened : (⟨⟨{ p with confirmed := true }, output, records⟩, []⟩ : Watch) = w
  cases decoded : Mode.ofCode? m.toRobot.modeCode with
  | none =>
    have halted : (serving (Turn.decodeMode m.toRobot.modeCode)).run w =
        (.error (.unknownMode m.toRobot.modeCode), w) := by
      rw [run_serving, Turn.decodeMode, decoded]
      rfl
    apply Ends.halt halted
    rw [← opened]
    exact .of_idle outfits rfl rfl rfl
  | some mode =>
    have decodes : (serving (Turn.decodeMode m.toRobot.modeCode)).run w = (.ok mode, w) := by
      rw [run_serving, Turn.decodeMode, decoded]
      rfl
    apply Ends.step decodes
    rw [← opened]
    cases mode with
    | idle => exact .of_idle outfits rfl rfl rfl
    | exit => exact .of_idle outfits rfl rfl rfl
    | runController =>
      apply (runController_went outfits rfl m.toRobot).bind
      · intro e w went
        exact ⟨went.outfitted, went.robot, went.counted, went.sound, went.ordered,
          went.ready.imp_right fun _ => .inr ⟨e, rfl⟩⟩
      · intro _ w went
        have unfailed : ¬ ∃ e, (.ok () : Except Error Unit) = .error e := by simp
        exact ⟨went.outfitted, went.robot, went.counted, went.sound, went.ordered,
          went.ready.imp_right (Or.imp_right fun failed => absurd failed unfailed)⟩
    | applyParameters =>
      obtain ⟨user', r, t, answered, outfits', robot, counted, ready⟩ :=
        Turn.applyParameters_outfits (t := ⟨{ p with confirmed := true }, output, records⟩) outfits
          m.toRobot
      have answers : (serving (Turn.applyParameters m.toRobot)).run
          ⟨⟨{ p with confirmed := true }, output, records⟩, []⟩ = (r, ⟨t, []⟩) := by
        rw [run_serving, answered]
      cases r with
      | error e => exact .halt answers (.of_idle outfits' robot counted ready)
      | ok _ => exact .step answers (.of_idle outfits' robot counted ready)

end Watch

end Bridge

end Lockstep
