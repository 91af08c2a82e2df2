import Mathlib.Algebra.Order.Ring.Nat
import Lockstep.Proofs.Bridge.Outfit

/-! What a bridge does with its controller, whatever it is sent.

A step makes the calls of the turn that it serves. After a turn that went wrong
there are no more, so a controller is prepared once at most, and before it runs.
-/

set_option autoImplicit false

namespace Lockstep.Bridge

open Channel Message Parameter Effect

def Program.calls (p : Program) (m : Message) : List ControllerCall :=
  ((Watch.serve m.toRobot).run ⟨⟨p, m.toSimulator, []⟩, []⟩).2.calls

theorem Program.serve_went {p : Program} {user : Table} {n : Nat} (outfitted : p.Outfitted user n)
    {m : Message} {r : Except Error Mode} {t : Turn} (served : p.serve m = (r, t)) :
    p.Went (if r = .ok .runController then n + 1 else n) r ⟨t, p.calls m⟩ := by
  have went := Watch.serve_went (m := m) outfitted
  obtain ⟨result, turn⟩ := Watch.shows_serve m.toRobot ⟨⟨p, m.toSimulator, []⟩, []⟩
  unfold Ends at went
  unfold serve at served
  simp only [result, served] at went turn
  unfold calls
  rw [← turn]
  exact went

theorem Program.serve_lacking {p : Program} {m : Message} {refusal : Table.Refusal}
    (asked : m.mode? = some .runController)
    (confirmed : p.confirmed = true ∨ Robot.ofCode? m.toRobot.robotCode = some p.robot)
    (unready : p.ready = false) (lacking : p.requireComplete = .error refusal) :
    (p.serve m).1 = .error (.table refusal) := by
  obtain ⟨records, ran⟩ : ∃ records, (Turn.confirm m.toRobot.robotCode).run ⟨p, m.toSimulator, []⟩ =
      (.ok (), ⟨{ p with confirmed := true }, m.toSimulator, records⟩) := by
    obtain ran | refused := Turn.run_confirm m.toRobot.robotCode ⟨p, m.toSimulator, []⟩
    · exact ran
    obtain before | declared := confirmed
    · simp [Turn.confirm, before] at refused
      cases refused
    · exact Turn.run_confirm_declared declared
  obtain ⟨result, -⟩ := Watch.shows_serve m.toRobot ⟨⟨p, m.toSimulator, []⟩, []⟩
  have decoded : Mode.ofCode? m.toRobot.modeCode = some .runController := asked
  unfold serve
  rw [← result]
  unfold Watch.serve
  have halts (w : Watch) (same : w.turn.program.requireComplete = .error refusal) :
      (Watch.prepare m.toRobot).run w = (.error (.table refusal), w) := by
    obtain ⟨other, refused, halted⟩ | ⟨enough, -⟩ := Watch.run_prepare m.toRobot w
    · cases same.symm.trans refused
      exact halted
    · cases same.symm.trans enough
  simp only [run_bind, Watch.run_serving, ran, Turn.declareRobot, run_modify, Turn.decodeMode,
    decoded, run_pure, Watch.run_runController, unready, Bool.false_eq_true, if_false]
  rw [halts _ lacking]

def handed : Except Error Mode → Nat
  | .ok .runController => 1
  | _ => 0

theorem sum_handed (results : List (Except Error Mode)) :
    (results.map handed).sum = results.count (.ok .runController) := by
  induction results with
  | nil => rfl
  | cons r rest ih =>
    rw [List.map_cons, List.sum_cons, ih, List.count_cons, Nat.add_comm]
    congr 1
    obtain e | mode := r
    · rfl
    · cases mode <;> rfl

theorem controllerTurns_record (s : Stats) (mode : Mode) (duration : Duration) :
    (s.record mode duration).controllerTurns = s.controllerTurns + handed (.ok mode) := by
  cases mode <;> rfl

theorem InOrder.append {ready : Bool} {calls later : List ControllerCall}
    (first : InOrder ready calls) (idle : calls = [] → InOrder ready later)
    (busy : calls ≠ [] → InOrder true later) : InOrder ready (calls ++ later) := by
  cases calls with
  | nil => exact idle rfl
  | cons call rest =>
    refine ⟨first.1, fun other member => ?_⟩
    obtain old | new := List.mem_append.mp member
    · exact first.2 other old
    · have order := busy (List.cons_ne_nil _ _)
      cases later with
      | nil => cases new
      | cons next following =>
        obtain rfl | new := List.mem_cons.mp new
        · exact order.1
        · exact order.2 other new

variable {σ : Type}

theorem serve_of_full {b : Bridge} {m : Message} {mode : Mode} {t : Turn}
    (served : b.program.serve m = (.ok mode, t)) (active : b.endpoint.phase = .active)
    {w : World Message σ} (full : ¬ w.space.count b.endpoint.own.id < Space.maxCount) :
    (b.serve m w).1 = (.error (.channel (.semaphoreOverflow b.endpoint.own.name)),
      { b with program := t.program }) := by
  unfold serve
  rw [served]
  simp only [World.setSpace]
  rw [b.endpoint.finish_of_full _ active (by simpa using full)]

variable [Peer Message σ]

def calls (b : Bridge) (w : World Message σ) : List ControllerCall :=
  match b.endpoint.awaitForever.run w with
  | (.error _, _) => []
  | (.ok endpoint, w) => match endpoint.snapshot w.space with
    | .error _ => []
    | .ok m => b.program.calls m

/-- The calls in one step after the other, each after something that others do. -/
def history : List (World Message σ → World Message σ) → Bridge → World Message σ →
    List ControllerCall
  | [], _, _ => []
  | others :: rest, b, w =>
    b.calls (others w) ++ history rest (b.step (others w)).1.2 (b.step (others w)).2

theorem history_of_active {b : Bridge} (active : b.endpoint.phase = .active)
    (interludes : List (World Message σ → World Message σ)) (w : World Message σ) :
    history interludes b w = [] := by
  induction interludes generalizing w with
  | nil => rfl
  | cons others rest ih =>
    have busy : b.endpoint.phase ≠ .waiting := by
      rw [active]
      decide
    simp only [history, step_of_active active, ih, calls,
      b.endpoint.run_awaitForever_of_active _ busy, List.append_nil]

/-- What a step leaves of a bridge whose program had made so many iterations. -/
structure Stepped (b : Bridge) (n : Nat) (called : List ControllerCall) (r : Except Error Mode)
    (b' : Bridge) : Prop where
  sound : ∀ call ∈ called, call.Sound
  ordered : InOrder b.program.ready called
  robot : b'.program.robot = b.program.robot
  counted : b'.program.stats.controllerTurns = b.program.stats.controllerTurns + handed r
  outfitted : ∃ user n', b'.program.Outfitted user n' ∧
    ((∃ name, r = .error (.channel (.semaphoreOverflow name))) ∨ n' = n + handed r)
  onward : b'.endpoint.phase = .active ∨ (called = [] ∧ b'.program.ready = b.program.ready) ∨
    (called ≠ [] ∧ b'.program.ready = true)

theorem step_stepped {b : Bridge} {user : Table} {n : Nat} (outfitted : b.program.Outfitted user n)
    (w : World Message σ) : b.Stepped n (b.calls w) (b.step w).1.1 (b.step w).1.2 := by
  have unserved (endpoint : Endpoint) (cause : Channel.Error) :
      b.Stepped n [] (.error (.channel cause)) { b with endpoint := endpoint } := by
    constructor
    case sound => exact fun _ member => absurd member List.not_mem_nil
    case ordered => trivial
    case robot => rfl
    case counted => rfl
    case outfitted => exact ⟨user, n, outfitted, .inr rfl⟩
    case onward => exact .inr (.inl ⟨rfl, rfl⟩)
  unfold calls step
  rcases took : b.endpoint.awaitForever.run w with ⟨cause | endpoint, taken⟩
  · exact unserved b.endpoint cause
  dsimp only
  cases found : endpoint.snapshot taken.space with
  | error cause => exact unserved endpoint cause
  | ok m =>
    obtain rfl := awaitForever_ok took
    rcases served : b.program.serve m with ⟨r, t⟩
    have went := Program.serve_went outfitted served
    obtain ⟨user', outfits⟩ := went.outfitted
    dsimp only
    cases r with
    | error e =>
      obtain ⟨journal, failed⟩ := Bridge.serve_of_error (b := ⟨b.endpoint.tookTurn, b.program⟩)
        served taken
      rw [failed]
      exact ⟨went.sound, went.ordered, went.robot, went.counted, ⟨user', n, outfits, .inr rfl⟩,
        .inl rfl⟩
    | ok mode =>
      have count : (if (.ok mode : Except Error Mode) = .ok .runController then n + 1 else n) =
          n + handed (.ok mode) := by cases mode <;> rfl
      rw [count] at outfits
      by_cases room : taken.space.count b.endpoint.tookTurn.own.id < Space.maxCount
      · obtain ⟨journal, given⟩ := Bridge.serve_of_ok (b := ⟨b.endpoint.tookTurn, b.program⟩)
          served rfl room
        rw [given]
        constructor
        case sound => exact went.sound
        case ordered => exact went.ordered
        case robot => exact went.robot
        case counted =>
          dsimp only
          rw [controllerTurns_record]
          exact congrArg (· + handed (.ok mode)) went.counted
        case outfitted =>
          exact ⟨user', _, ⟨outfits.has, outfits.iterations, outfits.declares,
            outfits.declaresUser, outfits.complete, outfits.idle⟩, .inr rfl⟩
        case onward =>
          right
          obtain none | ready | ⟨e, failed⟩ := went.ready
          · exact .inl none
          · exact .inr ready
          · cases failed
      · rw [Bridge.serve_of_full (b := ⟨b.endpoint.tookTurn, b.program⟩) served rfl room]
        exact ⟨went.sound, went.ordered, went.robot, went.counted,
          ⟨user', _, outfits, .inl ⟨_, rfl⟩⟩, .inl rfl⟩

theorem step_error {b : Bridge} {w taken : World Message σ} {endpoint : Endpoint} {m : Message}
    {e : Error} (took : b.endpoint.awaitForever.run w = (.ok endpoint, taken))
    (found : endpoint.snapshot taken.space = .ok m) (failed : (b.program.serve m).1 = .error e) :
    (b.step w).1.1 = .error e := by
  rcases served : b.program.serve m with ⟨r, t⟩
  rw [served] at failed
  obtain rfl : r = .error e := failed
  obtain ⟨journal, stopped⟩ := Bridge.serve_of_error (b := ⟨endpoint, b.program⟩) served taken
  unfold step
  rw [took]
  dsimp only
  rw [found]
  dsimp only
  rw [stopped]

/-- Every step leaves a bridge in which the next one finds what it needs. -/
theorem steps_stepped {b : Bridge} {user : Table} {n : Nat} (outfitted : b.program.Outfitted user n)
    (interludes : List (World Message σ → World Message σ)) (w : World Message σ) :
    let results := (steps interludes b w).1
    let b' := (steps interludes b w).2.1
    (∀ call ∈ history interludes b w, call.Sound) ∧
    InOrder b.program.ready (history interludes b w) ∧
    b'.program.robot = b.program.robot ∧
    b'.program.stats.controllerTurns =
      b.program.stats.controllerTurns + (results.map handed).sum ∧
    ∃ user' n', b'.program.Outfitted user' n' ∧
      ((∃ name, .error (.channel (.semaphoreOverflow name)) ∈ results) ∨
        n' = n + (results.map handed).sum) := by
  induction interludes generalizing b user n w with
  | nil =>
    exact ⟨fun _ member => absurd member List.not_mem_nil, trivial, rfl, rfl, user, n, outfitted,
      .inr rfl⟩
  | cons others rest ih =>
    have stepped := step_stepped outfitted (others w)
    obtain ⟨user', n', outfits, count⟩ := stepped.outfitted
    have later := ih outfits (b.step (others w)).2
    simp only [steps, history, List.map_cons, List.sum_cons]
    generalize steps rest (b.step (others w)).1.2 (b.step (others w)).2 = ran at later ⊢
    obtain ⟨results, b', w'⟩ := ran
    obtain ⟨sound, ordered, robot, counted, user'', n'', outfits', count'⟩ := later
    refine ⟨?_, ?_, robot.trans stepped.robot, ?_, user'', n'', outfits', ?_⟩
    · intro call member
      obtain now | then' := List.mem_append.mp member
      · exact stepped.sound call now
      · exact sound call then'
    · apply stepped.ordered.append
      · intro idle
        obtain active | ⟨-, ready⟩ | ⟨busy, -⟩ := stepped.onward
        · rw [history_of_active active]
          trivial
        · exact ready ▸ ordered
        · exact absurd idle busy
      · intro busy
        obtain active | ⟨idle, -⟩ | ⟨-, ready⟩ := stepped.onward
        · rw [history_of_active active]
          trivial
        · exact absurd idle busy
        · exact ready ▸ ordered
    · dsimp only
      rw [counted, stepped.counted, Nat.add_assoc]
    · dsimp only
      obtain ⟨name, overflow⟩ | count := count
      · exact .inl ⟨name, overflow ▸ List.mem_cons_self⟩
      obtain ⟨name, overflow⟩ | count' := count'
      · exact .inl ⟨name, List.mem_cons_of_mem _ overflow⟩
      · right
        rw [count', count, Nat.add_assoc]

def preload (t : Table) (files : List (String × Config.File)) : Table :=
  files.foldl (fun t (path, file) => (loadFile t path file).2.1) t

theorem preload_ripens {t : Table} (ordered : t.Ordered) (files : List (String × Config.File)) :
    t.Ripens (preload t files) := by
  induction files generalizing t with
  | nil => exact .refl t
  | cons first rest ih =>
    have loaded := Table.Ripens.loadFile ordered first.1 first.2
    exact loaded.trans (ih (loaded.ordered ordered))

/-- A program with a standing controller, its tables preloaded from files. -/
def Program.preloaded (robot : Robot) (robotFiles userFiles : List (String × Config.File)) :
    Program :=
  .start robot (.stand { Controller.Stand.fresh with
    user := preload Controller.Stand.fresh.user userFiles }) (preload .robot robotFiles)

theorem Program.preloaded_outfitted (robot : Robot)
    (robotFiles userFiles : List (String × Config.File)) :
    (preloaded robot robotFiles userFiles).Outfitted
      (preload Controller.Stand.fresh.user userFiles) 0 := by
  constructor
  case has => rfl
  case iterations => rfl
  case declares => exact preload_ripens Table.ordered_robot robotFiles
  case declaresUser => exact preload_ripens ordered_user userFiles
  case complete => exact nofun
  case idle => exact fun _ => rfl

/-- These names are the ones of a table's parameters that were never written, in order. -/
structure Lacks (t : Table) (missing : List String) : Prop where
  sorted : missing.Pairwise (· < ·)
  mem_iff : ∀ name, name ∈ missing ↔ ∃ e ∈ t.entries, e.name = name ∧ e.initialized = false

theorem Lacks.uninitialized {t : Table} (ordered : t.Ordered) : Lacks t t.uninitialized :=
  ⟨ordered.uninitialized, fun _ => Table.mem_uninitialized⟩

/-- Whatever a robot with a standing controller is sent: the controller is prepared
once at most, before it runs, and runs on complete tables, which declare what they
always did, so that no parameter is ever at fault. As long as something is missing
a turn of the controller fails and says what. The iterations are the turns of the
controller that were given back, unless one could not be. -/
theorem controller_runs_outfitted (robot : Robot)
    (robotFiles userFiles : List (String × Config.File)) (endpoint : Endpoint)
    (interludes : List (World Message σ → World Message σ)) (w : World Message σ) :
    let b : Bridge := ⟨endpoint, .preloaded robot robotFiles userFiles⟩
    let results := (steps interludes b w).1
    let b' := (steps interludes b w).2.1
    (∀ call ∈ history interludes b w, call.Sound) ∧
    InOrder false (history interludes b w) ∧
    (b'.program.parameters.declared = Table.robot.declared ∧ ∃ user,
      b'.program.controller.user? = some user ∧
      user.declared = Controller.Stand.fresh.user.declared) ∧
    b'.program.stats.controllerTurns = results.count (.ok .runController) ∧
    ((∀ name, .error (.channel (.semaphoreOverflow name)) ∉ results) →
      b'.program.controller.iterations? = some (results.count (.ok .runController))) ∧
    ∀ (before taken : World Message σ) (holding : Endpoint) (m : Message) (user : Table),
      b'.endpoint.awaitForever.run before = (.ok holding, taken) →
      holding.snapshot taken.space = .ok m → m.mode? = some .runController →
      b'.program.confirmed = true ∨ Robot.ofCode? m.toRobot.robotCode = some robot →
      b'.program.controller.user? = some user →
      (b'.program.parameters.isComplete = false → ∃ missing, Lacks b'.program.parameters missing ∧
        (b'.step before).1.1 = .error (.table (.incomplete "robot" missing))) ∧
      (b'.program.parameters.isComplete = true → user.isComplete = false → ∃ missing,
        Lacks user missing ∧
        (b'.step before).1.1 = .error (.table (.incomplete "user" missing))) := by
  intro b
  have outfitted : b.program.Outfitted _ 0 := Program.preloaded_outfitted robot robotFiles userFiles
  have stepped := steps_stepped outfitted interludes w
  generalize steps interludes b w = ran at stepped ⊢
  obtain ⟨results, b', w'⟩ := ran
  obtain ⟨sound, ordered, same, counted, user, n, outfitted, count⟩ := stepped
  dsimp only at same counted outfitted count ⊢
  rw [sum_handed] at counted count
  refine ⟨sound, ordered, ⟨outfitted.declares.declared, user, outfitted.has,
    outfitted.declaresUser.declared⟩, ?_, ?_, ?_⟩
  · rw [counted]
    exact Nat.zero_add _
  · intro given
    obtain ⟨name, overflow⟩ | count := count
    · exact absurd overflow (given name)
    · rw [outfitted.iterations, count, Nat.zero_add]
  · intro before taken holding m user' took found asked confirmed has
    obtain rfl := Option.some.inj (outfitted.has.symm.trans has)
    have declared : b'.program.confirmed = true ∨
        Robot.ofCode? m.toRobot.robotCode = some b'.program.robot := by
      rw [same]
      exact confirmed
    constructor
    · intro incomplete
      have lacking := outfitted.lacking
      rw [if_pos incomplete, outfitted.declares.label] at lacking
      have unready : b'.program.ready = false := by
        by_contra ready
        exact absurd ((outfitted.complete (by simpa using ready)).1.symm.trans incomplete)
          Bool.noConfusion
      have failed := Program.serve_lacking asked declared unready lacking
      exact ⟨_, .uninitialized (outfitted.declares.ordered Table.ordered_robot),
        step_error took found failed⟩
    · intro complete incomplete
      have lacking := outfitted.lacking
      rw [if_neg (by simp [complete]), if_pos incomplete, outfitted.declaresUser.label] at lacking
      have unready : b'.program.ready = false := by
        by_contra ready
        exact absurd ((outfitted.complete (by simpa using ready)).2.symm.trans incomplete)
          Bool.noConfusion
      have failed := Program.serve_lacking asked declared unready lacking
      exact ⟨_, .uninitialized (outfitted.declaresUser.ordered ordered_user),
        step_error took found failed⟩

def singleFile (name kind value : String) : String × Config.File :=
  (name ++ ".toml", .content
    ("[parameters." ++ name ++ "]\nkind=\"" ++ kind ++ "\"\nvalue=" ++ value ++ "\n").toUTF8.toList)

def robotFiles : List (String × Config.File) :=
  [singleFile "controller_dt" "double" "0.002", singleFile "control_mode" "s64" "0",
    singleFile "cheater_mode" "s64" "0", singleFile "stand_kp_joint" "vec3_double" "[5,5,5]",
    singleFile "stand_kd_joint" "vec3_double" "[1,1,1]",
    singleFile "imu_process_noise_position" "double" "0.02",
    singleFile "foot_sensor_noise_position" "double" "0.001", singleFile "use_rc" "s64" "0"]

def userFiles : List (String × Config.File) :=
  [singleFile "home_pose" "vec3_double" "[0,-1,2]", singleFile "max_torque" "float" "20",
    singleFile "blend_iterations" "s64" "3"]

/-- A simulator that asks the first robot on a channel to run its controller. -/
def drives (w : World Message Unit) : World Message Unit :=
  w.setSpace ((w.space.setContent 0 hasty).post 1)

def opened : World Message Unit :=
  ⟨.withChannel .empty .standard (Wire.Layout.size Message), (), #[]⟩

/-- With its files a robot runs its controller at once, without them it says what is missing. -/
theorem files_are_needed :
    let attached := Endpoint.attached .standard (Wire.Layout.size Message) 0 0 1
    let b : Bridge := ⟨attached, .preloaded .miniCheetah robotFiles userFiles⟩
    let bare : Bridge := ⟨attached, .preloaded .miniCheetah [] []⟩
    (steps [drives, drives] b opened).1 = [.ok .runController, .ok .runController] ∧
    (∀ call ∈ history [drives, drives] b opened, call.Sound) ∧
    InOrder false (history [drives, drives] b opened) ∧
    (steps [drives, drives] b opened).2.1.program.controller.iterations? = some 2 ∧
    ∃ missing, Lacks .robot missing ∧
      (bare.step (drives opened)).1.1 = .error (.table (.incomplete "robot" missing)) := by
  intro attached b bare
  have served : (steps [drives, drives] b opened).1 = [.ok .runController, .ok .runController] := by
    decide +kernel
  obtain ⟨sound, ordered, -, -, iterations, -⟩ :=
    controller_runs_outfitted .miniCheetah robotFiles userFiles attached [drives, drives] opened
  obtain ⟨-, -, -, -, -, lacking⟩ :=
    controller_runs_outfitted .miniCheetah [] [] attached [] opened
  refine ⟨served, sound, ordered, ?_, ?_⟩
  · rw [served] at iterations
    exact iterations fun name overflow => by simp at overflow
  · obtain ⟨taken, took, found⟩ : ∃ taken : World Message Unit,
        attached.awaitForever.run (drives opened) = (.ok attached.tookTurn, taken) ∧
        attached.tookTurn.snapshot taken.space = .ok hasty := ⟨_, rfl, rfl⟩
    exact (lacking _ taken _ hasty Controller.Stand.fresh.user took found rfl (.inr rfl) rfl).1 rfl

end Lockstep.Bridge
