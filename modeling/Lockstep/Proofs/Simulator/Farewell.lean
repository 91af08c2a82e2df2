import Lockstep.Proofs.Channel.Closing
import Lockstep.Proofs.Simulator.Headless

/-! The end of a run: the channel is taken down, and the robot was told to go before, or not.

It was not where a parameter file did not load, or where the simulator stopped
waiting for a first answer while the robot was about to give it.
-/

set_option autoImplicit false

namespace Lockstep.Crew

/-- Whoever had the turn has served the one that told it to go. -/
def Dismissed (crew : Crew) : Prop :=
  ∀ mate ∈ crew.mates, 0 < mate.taken → Mode.exit ∈ mate.modes

instance (crew : Crew) : Decidable crew.Dismissed :=
  inferInstanceAs (Decidable (∀ mate ∈ crew.mates, _))

def veterans (crew : Crew) : Nat := total (fun mate => if 0 < mate.taken then 1 else 0) crew.mates

theorem Manned.dismissed_iff {crew : Crew} (manned : crew.Manned) (once : crew.served .exit ≤ 1) :
    crew.served .exit ≤ crew.veterans ∧
      (crew.Dismissed ↔ crew.served .exit = crew.veterans) := by
  have told {mate : Mate} (member : mate ∈ crew.mates) : mate.modes.count .exit ≤ 1 := by
    obtain ⟨seat, found⟩ := List.mem_iff_getElem?.mp member
    exact Nat.le_trans (le_total (·.modes.count .exit) found) once
  have had : ∀ mate ∈ crew.mates, mate.modes.count .exit ≤ if 0 < mate.taken then 1 else 0 := by
    intro mate member
    split
    next => exact told member
    next fresh =>
      obtain ⟨-, idle⟩ := (manned mate member).fresh (Nat.eq_zero_of_not_pos fresh)
      rw [idle, List.count_nil]
  refine ⟨total_le_total had, ?_⟩
  unfold served veterans
  rw [total_eq_iff_of_le had]
  refine forall₂_congr fun mate member => ?_
  have most := told member
  have least := had mate member
  rw [← List.count_pos_iff]
  split at least
  next veteran =>
    rw [if_pos veteran]
    omega
  next fresh =>
    rw [if_neg fresh]
    omega

end Lockstep.Crew

namespace Lockstep.Simulator

open Channel Message Parameter Effect

/-- A channel that nobody can attach to any more. -/
structure Unnamed {α : Type} (s : Space α) (names : Names) : Prop where
  region : s.regionNames names.region = none
  robot : s.semaphoreNames names.robotSemaphore = none
  simulator : s.semaphoreNames names.simulatorSemaphore = none

instance {α : Type} (s : Space α) (names : Names) : Decidable (Unnamed s names) :=
  decidable_of_iff (s.regionNames names.region = none ∧
    s.semaphoreNames names.robotSemaphore = none ∧
    s.semaphoreNames names.simulatorSemaphore = none)
    ⟨fun ⟨region, robot, simulator⟩ => ⟨region, robot, simulator⟩,
      fun ⟨region, robot, simulator⟩ => ⟨region, robot, simulator⟩⟩

structure Named {α : Type} (s : Space α) (names : Names) : Prop where
  region : s.regionNames names.region ≠ none
  robot : s.semaphoreNames names.robotSemaphore ≠ none
  simulator : s.semaphoreNames names.simulatorSemaphore ≠ none

/-- The names were there until a last step took them away, and no robot moved after it. -/
structure Down (names : Names) (w : World Message Crew) : Prop where
  unnamed : Unnamed w.space names
  last : ∃ s : Session Crew, Named s.world.space names ∧ s.world.peer = w.peer ∧
    (Talk.close.run s).2.world = w

/-- A session whose simulator created the region that its name is bound to. -/
structure Mine (names : Names) (s : Session Crew) : Prop where
  role : s.connection.endpoint.role = .simulator
  called : s.connection.endpoint.names = names
  owned : s.connection.endpoint.region.owned = true
  spelled : s.connection.endpoint.region.name = names.region
  bound : s.world.space.regionNames names.region = some s.connection.endpoint.region.id
  named : Named s.world.space names
  manned : s.world.peer.Manned

theorem Mine.later {names : Names} {asks : Nat} {kind : Mode → Prop} {s t : Session Crew}
    {m : Message} (mine : Mine names s) (synced : Synced t m) (later : Later asks kind s t) :
    Mine names t := by
  obtain ⟨region, robot, simulator⟩ := mine.named
  refine ⟨synced.role, later.names.trans mine.called, ?_, ?_, ?_, ⟨?_, ?_, ?_⟩,
    synced.tally.afloat.manned⟩
  · rw [later.region]
    exact mine.owned
  · rw [later.region]
    exact mine.spelled
  · rw [later.regionNames, later.region]
    exact mine.bound
  · rw [later.regionNames]
    exact region
  · rw [later.semaphoreNames]
    exact robot
  · rw [later.semaphoreNames]
    exact simulator

variable {names : Names} {s : Session Crew} {m : Message}

namespace Talk

theorem run_close (valid : names.Valid) (mine : Mine names s) :
    ∃ journal, close.run s = (.ok (), { s with
      world := ⟨((s.world.space.unbindRegion names.region).unbindSemaphore
        names.robotSemaphore).unbindSemaphore names.simulatorSemaphore, s.world.peer, journal⟩ }) := by
  obtain ⟨role, rfl, owned, spelled, bound, -, -⟩ := mine
  obtain ⟨journal, ran⟩ := Endpoint.run_close_simulator role owned spelled valid.robot
    valid.simulator bound
  refine ⟨journal, ?_⟩
  unfold close
  rw [run_bind, run_connection]
  dsimp only
  rw [run_act, ran]
  rfl

theorem close_ends (valid : names.Valid) (mine : Mine names s) :
    Ends close s fun r t => r = .ok () ∧ t.world.peer = s.world.peer ∧ Down names t.world := by
  obtain ⟨journal, ran⟩ := run_close valid mine
  unfold Ends
  refine ⟨by rw [ran], by rw [ran], ?_, s, mine.named, by rw [ran], rfl⟩
  rw [ran]
  constructor
  · exact Bindings.unbind_self _ _
  · change ((s.world.space.semaphoreNames.unbind _).unbind _) _ = none
    rw [Bindings.unbind_other _ valid.differ]
    exact Bindings.unbind_self _ _
  · exact Bindings.unbind_self _ _

def AnyMode (_ : Mode) : Prop := True

theorem anyMode (mode : Mode) : AnyMode mode := trivial

def Told (names : Names) (s : Session Crew) : Except Error Unit → Session Crew → Prop
  | .ok _, t => Mine names t ∧ (t.world.peer.Healthy → s.world.peer.Healthy ∧
      t.world.peer.served .exit = s.world.peer.served .exit + 1)
  | .error _, t => Down names t.world ∧ t.world.peer.Manned ∧ ¬ t.world.peer.Healthy

/-- A crew in good order serves one more turn, the one that tells it to go. -/
theorem exit_ends (valid : names.Valid) (mine : Mine names s) (synced : Synced s m)
    (ready : Ready s) :
    Ends exit s fun r t => Down names t.world ∧ t.world.peer.Manned ∧ (t.world.peer.Healthy →
      s.world.peer.Healthy ∧ r = .ok () ∧
      t.world.peer.served .exit = s.world.peer.served .exit + 1) := by
  unfold exit
  refine .step (run_connection s) (.step (run_note _ _ _ _) ?_)
  dsimp only
  rw [if_pos ready.active]
  generalize (⟨.info, "Sending exit to robot", _⟩ : Record) = record
  have noted := synced.noted record
  have later := Later.noted AnyMode s record
  have mine := mine.later noted later
  have ready := ready.later later ready.active
  have told : Ends (tryCatch (exchange .exit) fun e => do close; throw e) (s.noted record)
      (Told names s) := by
    -- Which modes were served does not matter here, but that this one was served once more.
    apply (exchange_ends noted .exit (anyMode .exit)).rescue
    · intro _ t ⟨m', synced, _, after, _, more⟩
      exact ⟨mine.later synced after, fun healthy => ⟨after.healthy healthy, more healthy.loyal⟩⟩
    · intro e t ⟨m', synced, _, after, _, lost⟩
      apply (close_ends valid (mine.later synced after)).bind
      · intro e' u ⟨closed, _⟩
        cases closed
      · intro _ u ⟨_, crew, down⟩
        refine .of_run (run_throw _ _) ⟨down, ?_⟩
        rw [crew]
        refine ⟨synced.tally.afloat.manned, ?_⟩
        exact ready.lost after (lost ready.active)
  apply told.bind
  · intro e t ⟨down, manned, lost⟩
    exact ⟨down, manned, fun healthy => absurd healthy lost⟩
  · intro _ t ⟨mine, more⟩
    apply (close_ends valid mine).mono
    intro r u ⟨closed, crew, down⟩
    rw [crew]
    refine ⟨down, mine.manned, fun healthy => ?_⟩
    exact ⟨(more healthy).1, closed, (more healthy).2⟩

end Talk

namespace Headless

def Concluded (s : Session Crew) (progress : Progress) (r : Except Error Summary)
    (t : Session Crew) : Prop :=
  match progress with
  | .unattended => r = .ok ⟨false, 0, 0⟩ ∧
      t.world.peer.served .exit = s.world.peer.served .exit
  | .finished n => (∃ cycles, r = .ok ⟨true, n, cycles⟩) ∧
      t.world.peer.served .exit = s.world.peer.served .exit + 1

theorem conclude_ends (progress : Progress) (cycles : Nat) (valid : names.Valid)
    (mine : Mine names s) (synced : Synced s m)
    (ready : ∀ parameters, progress = .finished parameters → Ready s) :
    Ends (conclude progress cycles) s fun r t => Down names t.world ∧ t.world.peer.Manned ∧
      (t.world.peer.Healthy → s.world.peer.Healthy ∧ Concluded s progress r t) := by
  unfold conclude
  cases progress with
  | unattended =>
    refine .step (Talk.run_note _ _ _ _) ?_
    have noted := mine.later (synced.noted _) (.noted Working s
      ⟨.info, "Shutdown requested before the robot attached", []⟩)
    apply (Talk.close_ends valid noted).bind
    · intro e t ⟨closed, _⟩
      cases closed
    · intro _ t ⟨_, crew, down⟩
      refine .of_run (run_pure _ _) ⟨down, ?_⟩
      rw [Concluded, crew]
      exact ⟨noted.manned, fun healthy => ⟨healthy, rfl, rfl⟩⟩
  | finished parameters =>
    refine .step (Talk.run_note _ _ _ _) ?_
    generalize (⟨.info, "Controller loop stopped", _⟩ : Record) = record
    have later := Later.noted Working s record
    have ready := (ready parameters rfl).later later (ready parameters rfl).active
    refine (Talk.exit_ends valid (mine.later (synced.noted record) later) (synced.noted record)
      ready).bind ?_ ?_
    · intro e t ⟨down, manned, told⟩
      refine ⟨down, manned, fun healthy => ?_⟩
      obtain ⟨-, went, -⟩ := told healthy
      cases went
    · intro _ t ⟨down, manned, told⟩
      refine .of_run (run_pure _ _) ⟨down, manned, fun healthy => ?_⟩
      obtain ⟨before, -, more⟩ := told healthy
      exact ⟨before, ⟨cycles, rfl⟩, more⟩

def connected (h : Headless) (s : Space Message) : Connection :=
  .created s h.settings.channel h.settings.robot ⟨h.settings.turnTimeout, h.settings.retries⟩

def drill (h : Headless) (s : Space Message) (plan : List (List Crew.Move)) (journal : Journal) :
    Drill Crew :=
  ⟨⟨h.connected s, ⟨opened s h.settings.channel h.settings.robot,
    .start (h.connected s).endpoint.objects plan, journal⟩⟩, h.plant, h.cycles⟩

def AllLoad (h : Headless) (files : Config.Files) : Prop :=
  Loads files h.settings.robotParameters ∧ Loads files h.settings.userParameters

variable {h : Headless} {fuel : Nat} {files : Config.Files} {running : Crew → Bool}
  {space : Space Message} {plan : List (List Crew.Move)} {journal : Journal}

theorem named_of_checked (checked : h.settings.invalid? = none) :
    h.settings.channel.fault? = none := by
  unfold Config.SimulatorSettings.invalid? at checked
  obtain ⟨-, rest⟩ := (Option.orElse_eq_none _ _).mp checked
  obtain ⟨named, -⟩ := (Option.orElse_eq_none _ _).mp rest
  exact Option.map_eq_none_iff.mp named

/-- Settings that were checked name a channel that can be made, unless a directory is in its way. -/
theorem valid_of_checked (checked : h.settings.invalid? = none)
    (free : h.settings.channel.region ∉ directoryNames) : h.settings.channel.Valid :=
  Names.valid_of_fault (named_of_checked checked) free

theorem run_directory {σ : Type} [Peer Message σ] (h : Headless)
    (checked : h.settings.invalid? = none) (directory : h.settings.channel.region ∈ directoryNames)
    (fuel : Nat) (files : Config.Files) (running : σ → Bool) (w : World Message σ) :
    ∃ journal, h.run fuel files running w =
      (some (.error (.channel (.system .isDirectory))), h, { w with journal := journal }) := by
  obtain ⟨region, -⟩ := Names.fault?_eq_none_iff.mp (named_of_checked checked)
  obtain ⟨journal, refused⟩ :=
    create_directory region directory (Wire.Layout.size Message) false w
  refine ⟨journal, ?_⟩
  simp only [run, Connection.create, run_bind, refused]
  rfl

theorem named_opened {names : Names} (valid : names.Valid) (s : Space Message) (robot : Robot) :
    Named (opened s names robot) names := by
  constructor
  · change (s.regionNames.bind names.region s.regions.size) names.region ≠ none
    rw [Bindings.bind_self]
    exact Option.some_ne_none _
  · change ((s.semaphoreNames.bind names.robotSemaphore _).bind names.simulatorSemaphore _)
      names.robotSemaphore ≠ none
    rw [Bindings.bind_other _ _ valid.differ, Bindings.bind_self]
    exact Option.some_ne_none _
  · change ((s.semaphoreNames.bind names.robotSemaphore _).bind names.simulatorSemaphore _)
      names.simulatorSemaphore ≠ none
    rw [Bindings.bind_self]
    exact Option.some_ne_none _

/-- A run ends in three ways: in an error, without an end, or taking its leave. -/
theorem run_cases (valid : h.settings.channel.Valid) :
    ∃ noted d, (Running.body h.settings files running fuel).run (h.drill space plan noted) = d ∧
      h.run fuel files running ⟨space, .start (h.connected space).endpoint.objects plan, journal⟩ =
        match d.1 with
        | .error e => (some (.error e), { h with plant := d.2.plant, cycles := d.2.cycles },
            (Talk.close.run d.2.session).2.world)
        | .ok none => (none, { h with plant := d.2.plant, cycles := d.2.cycles },
            d.2.session.world)
        | .ok (some progress) =>
          (some ((conclude progress d.2.cycles).run d.2.session).1,
            { h with plant := d.2.plant, cycles := d.2.cycles },
            ((conclude progress d.2.cycles).run d.2.session).2.world) := by
  obtain ⟨noted, created⟩ := Connection.create_forced valid h.settings.robot
    ⟨h.settings.turnTimeout, h.settings.retries⟩
    (⟨space, .start (h.connected space).endpoint.objects plan, journal⟩ : World Message Crew)
  refine ⟨noted, _, rfl, ?_⟩
  simp only [run, created]
  rfl

theorem mine_drill (valid : h.settings.channel.Valid) (noted : Journal) :
    Mine h.settings.channel (h.drill space plan noted).session :=
  ⟨rfl, rfl, rfl, rfl, Bindings.bind_self _ _ _, named_opened valid _ _,
    (Synced.opened _ _ _ _ _ _).tally.afloat.manned⟩

/-- A run that does not report that no robot came. -/
def Attended : Except Error Summary → Prop
  | .ok summary => summary.attached = true
  | .error _ => True

/-- A finished run has taken its channel down. In good order, its crew was told to go once
if the files load and the run did not give up before a robot answered, and else never. -/
theorem run_ends (valid : h.settings.channel.Valid)
    (lasts : Running.askCost h.settings files < UInt64.size) {r : Except Error Summary}
    {h' : Headless} {w : World Message Crew}
    (ran : h.run fuel files running
      ⟨space, .start (h.connected space).endpoint.objects plan, journal⟩ = (some r, h', w)) :
    Down h.settings.channel w ∧ w.peer.Manned ∧ (w.peer.Healthy →
      (h.AllLoad files ∧ Attended r ∧ w.peer.served .exit = 1) ∨
      (¬ (h.AllLoad files ∧ Attended r) ∧ w.peer.served .exit = 0)) := by
  obtain ⟨noted, d, bodied, came⟩ := run_cases valid
  rw [came] at ran
  have synced : Synced (h.drill space plan noted).session (opening h.settings.robot) :=
    Synced.opened _ _ _ _ _ _
  have mine : Mine h.settings.channel (h.drill space plan noted).session := mine_drill valid noted
  have room : (0 : UInt64).toNat + Running.askCost h.settings files < UInt64.size := by
    rw [UInt64.toNat_zero, Nat.zero_add]
    exact lasts
  have ends := Running.body_ends h.settings files running fuel synced rfl room
  unfold Ends at ends
  rw [bodied] at ends
  obtain ⟨result, d⟩ := d
  obtain ⟨m, after, later, gone⟩ := ends
  dsimp only at after later gone ran
  have mine := mine.later after later
  have unserved (loyal : d.session.world.peer.Loyal) : d.session.world.peer.served .exit = 0 :=
    later.served loyal .exit fun working => working rfl
  obtain e | _ | progress := result
  · have closed := Talk.close_ends valid mine
    unfold Ends at closed
    generalize Talk.close.run d.session = closing at closed ran
    obtain ⟨-, crew, down⟩ := closed
    cases ran
    rw [crew]
    refine ⟨down, mine.manned, fun healthy => .inr ?_⟩
    exact ⟨fun loads => gone healthy loads.1, unserved healthy.loyal⟩
  · cases ran
  · have concluded := conclude_ends progress d.cycles valid mine after (by
      rintro parameters rfl
      exact gone.2.2)
    unfold Ends at concluded
    obtain ⟨down, manned, told⟩ := concluded
    cases ran
    refine ⟨down, manned, fun healthy => ?_⟩
    obtain ⟨before, came⟩ := told healthy
    have none := unserved before.loyal
    cases progress with
    | unattended =>
      obtain ⟨reported, same⟩ := came
      rw [reported, same]
      exact .inr ⟨fun went => absurd went.2 (by simp [Attended]), none⟩
    | finished parameters =>
      obtain ⟨⟨cycles, reported⟩, more⟩ := came
      rw [reported, more, none]
      exact .inl ⟨⟨gone.1, gone.2.1⟩, rfl, rfl⟩

/-- What a run does last is to take its channel down, if it could have one. In good order,
every robot that had the turn was told to go before, exactly if none had it, or else if one
had it, both files load and the run did not give up before that robot answered. -/
theorem dismisses_iff (checked : h.settings.invalid? = none)
    (lasts : Running.askCost h.settings files < UInt64.size) {r : Except Error Summary}
    {h' : Headless} {w : World Message Crew}
    (ran : h.run fuel files running
      ⟨space, .start (h.connected space).endpoint.objects plan, journal⟩ = (some r, h', w)) :
    (if h.settings.channel.region ∈ directoryNames then w.space = space
      else Down h.settings.channel w) ∧ (w.peer.Healthy →
      (w.peer.Dismissed ↔ w.peer.veterans = 0 ∨
        (w.peer.veterans = 1 ∧ h.AllLoad files ∧ Attended r))) := by
  by_cases directory : h.settings.channel.region ∈ directoryNames
  · obtain ⟨journal, ended⟩ := h.run_directory checked directory fuel files running
      ⟨space, .start (h.connected space).endpoint.objects plan, journal⟩
    cases ended.symm.trans ran
    rw [if_pos directory]
    exact ⟨rfl, fun _ => iff_of_true (fun mate member => absurd member List.not_mem_nil) (.inl rfl)⟩
  rw [if_neg directory]
  obtain ⟨down, manned, told⟩ := run_ends (valid_of_checked checked directory) lasts ran
  refine ⟨down, fun healthy => ?_⟩
  obtain ⟨loads, attended, once⟩ | ⟨short, never⟩ := told healthy
  · obtain ⟨least, all⟩ := manned.dismissed_iff (Nat.le_of_eq once)
    rw [all, once]
    rw [once] at least
    constructor
    · intro same
      exact .inr ⟨same.symm, loads, attended⟩
    · rintro (none | ⟨one, -⟩)
      · omega
      · exact one.symm
  · obtain ⟨-, all⟩ := manned.dismissed_iff (by rw [never]; exact Nat.zero_le 1)
    rw [all, never]
    constructor
    · intro none
      exact .inl none.symm
    · rintro (none | ⟨-, met⟩)
      · exact none.symm
      · exact absurd met short

def trial (settings : Config.SimulatorSettings) (files : Config.Files) (running : Crew → Bool)
    (plan : List (List Crew.Move)) : Option (Except Error Summary) × Headless × World Message Crew :=
  let h := start settings
  h.run 8 files running ⟨.empty, .start (h.connected .empty).endpoint.objects plan, #[]⟩

/-- A robot that comes at once and serves three turns: hello, one parameter, and farewell. -/
theorem lone_robot_dismissed :
    let text := "[parameters.use_rc]\nkind = \"s64\"\nvalue = 0\n"
    let files : Config.Files := fun _ => .content text.toUTF8.toList
    let settings := { Config.SimulatorSettings.standard .miniCheetah with
      robotParameters := some "robot.toml", iterations := some 0 }
    let robot := Bridge.Program.start .miniCheetah .passive .robot
    let plan := [[Crew.Move.join .standard robot, .take 0, .serve 0], [.take 0, .serve 0],
      [.take 0, .serve 0]]
    settings.invalid? = none ∧ Running.askCost settings files < UInt64.size ∧
      ∃ h w, trial settings files (fun _ => true) plan = (some (.ok ⟨true, 1, 0⟩), h, w) ∧
        w.peer.Healthy ∧ w.peer.veterans = 1 ∧
        Down settings.channel w ∧ w.peer.Dismissed := by
  intro text files settings robot plan
  have checked : settings.invalid? = none := by decide +kernel
  have lasts : Running.askCost settings files < UInt64.size := by decide +kernel
  obtain ⟨told, healthy, one⟩ :
      (trial settings files (fun _ => true) plan).1 = some (.ok ⟨true, 1, 0⟩) ∧
      (trial settings files (fun _ => true) plan).2.2.peer.Healthy ∧
      (trial settings files (fun _ => true) plan).2.2.peer.veterans = 1 := by decide +kernel
  have ran : trial settings files (fun _ => true) plan = (some (.ok ⟨true, 1, 0⟩), _, _) :=
    Prod.ext told rfl
  have loads : (start settings).AllLoad files := by
    constructor
    · intro path wanted
      exact ⟨[("use_rc", .s64 0)], by decide +kernel⟩
    · intro path wanted
      cases wanted
  obtain ⟨down, dismissed⟩ := dismisses_iff checked lasts ran
  rw [if_neg (by decide)] at down
  exact ⟨checked, lasts, _, _, ran, healthy, one, down,
    (dismissed healthy).mpr (.inr ⟨one, loads, rfl⟩)⟩

/-- A run on checked settings that is over and left somebody in good order behind. -/
def Abandons (settings : Config.SimulatorSettings) (files : Config.Files) (running : Crew → Bool)
    (plan : List (List Crew.Move)) : Prop :=
  let (r, _, w) := trial settings files running plan
  settings.invalid? = none ∧ r.isSome ∧ Unnamed w.space settings.channel ∧ w.peer.Healthy ∧
    ¬ w.peer.Dismissed

instance (settings : Config.SimulatorSettings) (files : Config.Files) (running : Crew → Bool)
    (plan : List (List Crew.Move)) : Decidable (Abandons settings files running plan) :=
  inferInstanceAs (Decidable (_ ∧ _))

/-- A file that is not there makes the simulator go without a word, and so does a stop while
the robot is busy with its first turn. -/
theorem robot_abandoned :
    let standard := Config.SimulatorSettings.standard .miniCheetah
    let robot := Bridge.Program.start .miniCheetah .passive .robot
    Abandons { standard with robotParameters := some "robot.toml" } (fun _ => .missing)
        (fun _ => true) [[.join .standard robot, .take 0, .serve 0]] ∧
      Abandons standard (fun _ => .missing) (fun crew => !crew.plan.isEmpty)
        [[.join .standard robot, .take 0]] := by
  decide +kernel

end Headless

end Lockstep.Simulator
