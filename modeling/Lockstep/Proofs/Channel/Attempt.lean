import Lockstep.Proofs.Channel.Race
import Lockstep.Proofs.Channel.Tenure

/-! Attempts to create a channel, and what those leave behind that are refused.

The region comes first, then the robot's semaphore, then the simulator's. An
attempt ends at the first of them that cannot be had, and the region goes again;
what becomes of a semaphore that was made before hangs on the kind of attempt.
-/

set_option autoImplicit false

namespace Lockstep.Channel

open Effect

variable {α σ : Type}

namespace Space

/-- Whether a region can be created under a name. -/
def AdmitsRegion (s : Space α) (name : String) (exclusive : Bool) : Prop :=
  RegionName name ∧ (exclusive = false ∨ s.regionNames name = none)

def AdmitsSemaphore (s : Space α) (name : String) (exclusive : Bool) : Prop :=
  ValidName name ∧ (exclusive = false ∨ s.semaphoreNames name = none)

def passedRegion [Inhabited α] (s : Space α) (names : Names) (valueSize : Nat) : Space α :=
  (s.addRegion names.region ⟨regionSizeFor valueSize, default⟩).2.unbindRegion names.region

def passedRobot (s : Space α) (names : Names) (exclusive : Bool) : Space α :=
  if exclusive then (s.addSemaphore names.robotSemaphore).2.unbindSemaphore names.robotSemaphore
  else (s.addSemaphore names.robotSemaphore).2

end Space

theorem run_createRegion_refused [Inhabited α] {name : String} {exclusive : Bool} {w : World α σ}
    (refused : ¬ w.space.AdmitsRegion name exclusive) (valueSize : Nat) :
    ∃ cause journal, (createRegion name valueSize !exclusive).run w =
      (.error cause, { w with journal := journal }) := by
  obtain ⟨valid, free, -⟩ | ⟨-, failed⟩ := createRegion_cases name valueSize (!exclusive) w
  · exact absurd ⟨valid, by simpa using free⟩ refused
  · exact failed

theorem run_createRegion_admitted [Inhabited α] {name : String} {exclusive : Bool} {w : World α σ}
    (admitted : w.space.AdmitsRegion name exclusive) (valueSize : Nat) :
    ∃ journal, (createRegion name valueSize !exclusive).run w =
      (.ok ⟨name, w.space.regions.size, regionSizeFor valueSize, true⟩,
        ⟨(w.space.addRegion name ⟨regionSizeFor valueSize, default⟩).2, w.peer, journal⟩) := by
  obtain ⟨-, -, made⟩ | ⟨refused, -⟩ := createRegion_cases name valueSize (!exclusive) w
  · exact made
  · obtain ⟨valid, free⟩ := admitted
    cases exclusive <;> simp_all

theorem run_createSemaphore_refused {name : String} {exclusive : Bool} {w : World α σ}
    (refused : ¬ w.space.AdmitsSemaphore name exclusive) :
    ∃ cause, (createSemaphore name !exclusive).run w = (.error cause, w) := by
  obtain ⟨valid, free, -⟩ | ⟨-, failed⟩ := createSemaphore_cases name (!exclusive) w
  · exact absurd ⟨valid, by simpa using free⟩ refused
  · exact failed

theorem run_createSemaphore_admitted {name : String} {exclusive : Bool} {w : World α σ}
    (admitted : w.space.AdmitsSemaphore name exclusive) :
    ∃ journal, (createSemaphore name !exclusive).run w =
      (.ok ⟨name, w.space.counts.size⟩, ⟨(w.space.addSemaphore name).2, w.peer, journal⟩) := by
  obtain ⟨-, -, made⟩ | ⟨refused, -⟩ := createSemaphore_cases name (!exclusive) w
  · exact made
  · obtain ⟨valid, free⟩ := admitted
    cases exclusive <;> simp_all

/-- How the two semaphores of a channel are created, and the name space after it. -/
inductive TurnsAttempt (names : Names) (exclusive : Bool) (s : Space α) :
    Except Error TurnSemaphores → Space α → Prop where
  | made (robot : s.AdmitsSemaphore names.robotSemaphore exclusive)
      (simulator : (s.addSemaphore names.robotSemaphore).2.AdmitsSemaphore
        names.simulatorSemaphore exclusive) :
      TurnsAttempt names exclusive s (.ok (.created s names)) (s.withSemaphores names)
  | noRobot (cause : Error) (robot : ¬ s.AdmitsSemaphore names.robotSemaphore exclusive) :
      TurnsAttempt names exclusive s (.error cause) s
  | noSimulator (cause : Error) (robot : s.AdmitsSemaphore names.robotSemaphore exclusive)
      (simulator : ¬ (s.addSemaphore names.robotSemaphore).2.AdmitsSemaphore
        names.simulatorSemaphore exclusive) :
      TurnsAttempt names exclusive s (.error cause) (s.passedRobot names exclusive)

/-- What an attempt that made the robot's semaphore does if it cannot make the other one. -/
def withdraw (names : Names) (exclusive : Bool) : Act α σ Error Unit :=
  if exclusive then unlinkSemaphore names.robotSemaphore else return

theorem run_createTurns (names : Names) (exclusive : Bool) (w : World α σ) :
    (createTurns names exclusive).run w =
      match (createSemaphore names.robotSemaphore !exclusive).run w with
      | (.ok robot, w) => match (createSemaphore names.simulatorSemaphore !exclusive).run w with
        | (.ok simulator, w) => (.ok ⟨robot, simulator⟩, w)
        | (.error e, w) => match (withdraw names exclusive).run w with
          | (.ok (), w) => (.error e, w)
          | (.error e, w) => (.error e, w)
      | (.error e, w) => (.error e, w) := by
  cases exclusive with
  | false =>
    simp only [createTurns, withdraw, TurnSemaphores.create, Bool.false_eq_true, if_false,
      Bool.not_false, run_bind]
    rcases (createSemaphore names.robotSemaphore true).run w with ⟨_ | robot, between⟩
    · rfl
    · dsimp only
      rcases (createSemaphore names.simulatorSemaphore true).run between with ⟨_ | _, _⟩ <;> rfl
  | true => exact run_createExclusive names w

theorem run_withdraw {names : Names} (valid : ValidName names.robotSemaphore) (exclusive : Bool)
    (s : Space α) (peer : σ) (journal : Journal) :
    (withdraw names exclusive).run ⟨(s.addSemaphore names.robotSemaphore).2, peer, journal⟩ =
      (.ok (), ⟨s.passedRobot names exclusive, peer, journal⟩) := by
  cases exclusive with
  | false => rfl
  | true => exact run_unlinkSemaphore_valid valid _

theorem createTurns_attempt (names : Names) (exclusive : Bool) (w : World α σ) :
    Ends (createTurns names exclusive) w fun r t =>
      TurnsAttempt names exclusive w.space r t.space ∧ t.peer = w.peer := by
  by_cases robot : w.space.AdmitsSemaphore names.robotSemaphore exclusive
  case neg =>
    obtain ⟨cause, failed⟩ := run_createSemaphore_refused robot
    refine .of_run (t := w) ?_ ⟨.noRobot cause robot, rfl⟩
    rw [run_createTurns, failed]
  obtain ⟨first, madeRobot⟩ := run_createSemaphore_admitted robot
  by_cases simulator : (w.space.addSemaphore names.robotSemaphore).2.AdmitsSemaphore
    names.simulatorSemaphore exclusive
  case neg =>
    obtain ⟨cause, failed⟩ := run_createSemaphore_refused
      (w := (⟨(w.space.addSemaphore names.robotSemaphore).2, w.peer, first⟩ : World α σ)) simulator
    refine .of_run (t := ⟨w.space.passedRobot names exclusive, w.peer, first⟩) ?_
      ⟨.noSimulator cause robot simulator, rfl⟩
    simp only [run_createTurns, madeRobot, failed, run_withdraw robot.1]
  obtain ⟨second, madeSimulator⟩ := run_createSemaphore_admitted
    (w := (⟨(w.space.addSemaphore names.robotSemaphore).2, w.peer, first⟩ : World α σ)) simulator
  refine .of_run (t := ⟨w.space.withSemaphores names, w.peer, second⟩) ?_
    ⟨.made robot simulator, rfl⟩
  simp only [run_createTurns, madeRobot, madeSimulator, size_counts_addSemaphore]
  rfl

/-- How an attempt to create a channel ends, and the name space after it. -/
inductive Attempt [Inhabited α] (names : Names) (valueSize : Nat) (exclusive : Bool) (s : Space α) :
    Except Error Endpoint → Space α → Prop where
  | made (region : s.AdmitsRegion names.region exclusive)
      (robot : s.AdmitsSemaphore names.robotSemaphore exclusive)
      (simulator : (s.addSemaphore names.robotSemaphore).2.AdmitsSemaphore
        names.simulatorSemaphore exclusive) :
      Attempt names valueSize exclusive s (.ok (.created s names valueSize))
        (s.withChannel names valueSize)
  | noRegion (cause : Error) (region : ¬ s.AdmitsRegion names.region exclusive) :
      Attempt names valueSize exclusive s (.error cause) s
  | noRobot (cause : Error) (region : s.AdmitsRegion names.region exclusive)
      (robot : ¬ s.AdmitsSemaphore names.robotSemaphore exclusive) :
      Attempt names valueSize exclusive s (.error cause) (s.passedRegion names valueSize)
  | noSimulator (cause : Error) (region : s.AdmitsRegion names.region exclusive)
      (robot : s.AdmitsSemaphore names.robotSemaphore exclusive)
      (simulator : ¬ (s.addSemaphore names.robotSemaphore).2.AdmitsSemaphore
        names.simulatorSemaphore exclusive) :
      Attempt names valueSize exclusive s (.error cause)
        ((s.passedRegion names valueSize).passedRobot names exclusive)

theorem run_destroy_created [Inhabited α] (names : Names) (valueSize : Nat) (s : Space α)
    {w : World α σ} (kept : w.space.regionNames =
      (s.addRegion names.region ⟨regionSizeFor valueSize, default⟩).2.regionNames) :
    ∃ unlinked journal, (⟨names.region, s.regions.size, regionSizeFor valueSize, true⟩ :
      RegionHandle).destroy.run w =
        (.ok unlinked, ⟨w.space.unbindRegion names.region, w.peer, journal⟩) := by
  have bound : w.space.regionNames names.region = some s.regions.size := by
    rw [kept]
    exact Bindings.bind_self _ _ _
  obtain ⟨unlinked, journal, ran⟩ := run_destroy
    (⟨names.region, s.regions.size, regionSizeFor valueSize, true⟩ : RegionHandle) w
  refine ⟨unlinked, journal, ran.trans ?_⟩
  simp [RegionHandle.released, bound]

theorem create_attempt [Inhabited α] (names : Names) (valueSize : Nat) (exclusive : Bool)
    (w : World α σ) :
    Ends (Endpoint.create names valueSize exclusive) w fun r t =>
      Attempt names valueSize exclusive w.space r t.space ∧ t.peer = w.peer := by
  by_cases region : w.space.AdmitsRegion names.region exclusive
  case neg =>
    obtain ⟨cause, journal, failed⟩ := run_createRegion_refused region valueSize
    refine .of_run (t := { w with journal := journal }) ?_ ⟨.noRegion cause region, rfl⟩
    rw [run_create, failed]
  obtain ⟨first, made⟩ := run_createRegion_admitted region valueSize
  have turns := createTurns_attempt names exclusive (⟨(w.space.addRegion names.region
    ⟨regionSizeFor valueSize, default⟩).2, w.peer, first⟩ : World α σ)
  unfold Ends at turns ⊢
  simp only [run_create, made]
  generalize (createTurns names exclusive).run _ = ran at turns ⊢
  obtain ⟨r, between⟩ := ran
  obtain ⟨attempt, peer⟩ := turns
  dsimp only at attempt peer
  generalize there : between.space = s at attempt
  cases attempt with
  | made robot simulator =>
    refine ⟨?_, peer⟩
    change Attempt _ _ _ _ _ between.space
    rw [there]
    exact .made region robot simulator
  | noRobot cause robot =>
    obtain ⟨unlinked, journal, released⟩ :=
      run_destroy_created names valueSize w.space (w := between) (by rw [there])
    rw [there] at released
    simp only [released]
    exact ⟨.noRobot cause region robot, peer⟩
  | noSimulator cause robot simulator =>
    obtain ⟨unlinked, journal, released⟩ :=
      run_destroy_created names valueSize w.space (w := between) (by
        rw [there]
        cases exclusive <;> rfl)
    simp only [released]
    refine ⟨?_, peer⟩
    have swapped : between.space.unbindRegion names.region =
        (w.space.passedRegion names valueSize).passedRobot names exclusive := by
      rw [there]
      cases exclusive <;> rfl
    rw [swapped]
    exact .noSimulator cause region robot simulator

namespace Space

variable {s t : Space α}

/-- No name was bound or unbound, and every object there was is what it was. -/
structure Untouched (s t : Space α) : Prop where
  regionNames : t.regionNames = s.regionNames
  semaphoreNames : t.semaphoreNames = s.semaphoreNames
  objects : s.Preserved t

structure UntouchedBut (names : Names) (s t : Space α) : Prop where
  regionNames : ∀ name, name ≠ names.region → t.regionNames name = s.regionNames name
  semaphoreNames : ∀ name, name ≠ names.robotSemaphore → name ≠ names.simulatorSemaphore →
    t.semaphoreNames name = s.semaphoreNames name
  objects : s.Preserved t

/-- A name is bound to an object that was not there before. -/
def Strays (s t : Space α) : Prop :=
  (∃ name id, t.regionNames name = some id ∧ s.regions.size ≤ id) ∨
    ∃ name id, t.semaphoreNames name = some id ∧ s.counts.size ≤ id

theorem not_strays (regions : ∀ name id, t.regionNames name = some id → id < s.regions.size)
    (semaphores : ∀ name id, t.semaphoreNames name = some id → id < s.counts.size) :
    ¬ s.Strays t := by
  rintro (⟨name, id, bound, fresh⟩ | ⟨name, id, bound, fresh⟩)
  · exact Nat.not_lt.mpr fresh (regions name id bound)
  · exact Nat.not_lt.mpr fresh (semaphores name id bound)

theorem regionNames_passedRegion [Inhabited α] {names : Names} {valueSize : Nat} {name : String}
    {id : Nat} (bound : (s.passedRegion names valueSize).regionNames name = some id) :
    s.regionNames name = some id := by
  simp only [passedRegion, addRegion, unbindRegion, Bindings.bind, Bindings.unbind] at bound
  split at bound
  · cases bound
  · exact bound

theorem untouchedBut_withChannel [Inhabited α] (names : Names) (valueSize : Nat) :
    s.UntouchedBut names (s.withChannel names valueSize) := by
  constructor
  case regionNames => exact fun name other => Bindings.bind_other _ _ other
  case semaphoreNames =>
    exact fun name notRobot notSimulator =>
      (Bindings.bind_other _ _ notSimulator).trans (Bindings.bind_other _ _ notRobot)
  case objects => exact withChannel_preserved names valueSize

theorem untouched_passedRegion [Inhabited α] {names : Names}
    (free : s.regionNames names.region = none) (valueSize : Nat) :
    s.Untouched (s.passedRegion names valueSize) := by
  constructor
  case regionNames => exact Bindings.unbind_bind free _
  case semaphoreNames => rfl
  case objects => exact ⟨fun _ old => s.regions_addRegion names.region _ old, fun _ _ => rfl⟩

theorem untouched_passedRobot {names : Names}
    (free : s.semaphoreNames names.robotSemaphore = none) :
    s.Untouched (s.passedRobot names true) := by
  constructor
  case regionNames => rfl
  case semaphoreNames => exact Bindings.unbind_bind free _
  case objects =>
    refine ⟨fun _ _ => rfl, fun id old => ?_⟩
    simp [passedRobot, addSemaphore, unbindSemaphore, Array.getElem?_push, Nat.ne_of_lt old]

theorem Preserved.trans {u : Space α} (first : s.Preserved t) (second : t.Preserved u) :
    s.Preserved u := by
  constructor
  · intro id old
    have kept := first.regions id old
    rw [Array.getElem?_eq_getElem old] at kept
    obtain ⟨there, -⟩ := Array.getElem?_eq_some_iff.mp kept
    exact (second.regions id there).trans (first.regions id old)
  · intro id old
    have kept := first.counts id old
    rw [Array.getElem?_eq_getElem old] at kept
    obtain ⟨there, -⟩ := Array.getElem?_eq_some_iff.mp kept
    exact (second.counts id there).trans (first.counts id old)

theorem Untouched.refl (s : Space α) : s.Untouched s := ⟨rfl, rfl, .refl s⟩

theorem Untouched.trans {u : Space α} (first : s.Untouched t) (second : t.Untouched u) :
    s.Untouched u :=
  ⟨second.regionNames.trans first.regionNames, second.semaphoreNames.trans first.semaphoreNames,
    first.objects.trans second.objects⟩

@[simp] theorem admitsRegion_exclusive (s : Space α) (name : String) :
    s.AdmitsRegion name true ↔ RegionName name ∧ s.regionNames name = none := by
  simp [AdmitsRegion]

@[simp] theorem admitsSemaphore_exclusive (s : Space α) (name : String) :
    s.AdmitsSemaphore name true ↔ ValidName name ∧ s.semaphoreNames name = none := by
  simp [AdmitsSemaphore]

@[simp] theorem admitsRegion_forced (s : Space α) (name : String) :
    s.AdmitsRegion name false ↔ RegionName name := by
  simp [AdmitsRegion]

@[simp] theorem admitsSemaphore_forced (s : Space α) (name : String) :
    s.AdmitsSemaphore name false ↔ ValidName name := by
  simp [AdmitsSemaphore]

theorem addSemaphore_free_iff (s : Space α) (name other : String) :
    (s.addSemaphore other).2.semaphoreNames name = none ↔
      name ≠ other ∧ s.semaphoreNames name = none := by
  by_cases same : name = other
  · simp [addSemaphore, same]
  · simp [addSemaphore, same, Bindings.bind_other _ _ same]

end Space

/-- An exclusive attempt needs three good names of which none is bound. It gets
fresh and blank objects under them and touches nothing else; without them it
leaves the name space and every object in it as they were. -/
theorem create_all_or_nothing [Inhabited α] (names : Names) (valueSize : Nat) (w : World α σ) :
    Ends (Endpoint.create names valueSize true) w fun r t => t.peer = w.peer ∧
      match r with
      | .ok e => (names.Valid ∧ names.Unbound w.space) ∧
        e.New names valueSize w.space t.space ∧ w.space.UntouchedBut names t.space
      | .error _ => ¬ (names.Valid ∧ names.Unbound w.space) ∧ w.space.Untouched t.space := by
  refine (create_attempt names valueSize true w).mono ?_
  rintro r ⟨s, peer, journal⟩ ⟨attempt, same⟩
  refine ⟨same, ?_⟩
  dsimp only at attempt ⊢
  cases attempt with
  | made region robot simulator =>
    simp only [Space.admitsRegion_exclusive, Space.admitsSemaphore_exclusive,
      Space.addSemaphore_free_iff] at region robot simulator
    obtain ⟨simulatorValid, differ, simulatorFree⟩ := simulator
    have valid : names.Valid := ⟨region.1, robot.1, simulatorValid, differ.symm⟩
    exact ⟨⟨valid, region.2, robot.2, simulatorFree⟩, Endpoint.created_new valid _ _,
      Space.untouchedBut_withChannel names valueSize⟩
  | noRegion cause region =>
    rw [Space.admitsRegion_exclusive] at region
    exact ⟨fun ⟨valid, unbound⟩ => region ⟨valid.region, unbound.region⟩, .refl _⟩
  | noRobot cause region robot =>
    rw [Space.admitsRegion_exclusive] at region
    rw [Space.admitsSemaphore_exclusive] at robot
    exact ⟨fun ⟨valid, unbound⟩ => robot ⟨valid.robot, unbound.robot⟩,
      Space.untouched_passedRegion region.2 valueSize⟩
  | noSimulator cause region robot simulator =>
    simp only [Space.admitsRegion_exclusive, Space.admitsSemaphore_exclusive,
      Space.addSemaphore_free_iff] at region robot simulator
    refine ⟨fun ⟨valid, unbound⟩ =>
      simulator ⟨valid.simulator, valid.differ.symm, unbound.simulator⟩, ?_⟩
    exact (Space.untouched_passedRegion region.2 valueSize).trans
      (Space.untouched_passedRobot robot.2)

/-- Nothing but a semaphore under the standard name of the simulator's, with a turn pending. -/
def remnant : Space Nat := (Space.empty.addSemaphore Names.standard.simulatorSemaphore).2.post 0

/-- An attempt that comes upon it takes back the two objects that it has made by then. -/
theorem remnant_untouched :
    let ran := (Endpoint.create .standard 8 true).run (⟨remnant, (), #[]⟩ : World Nat Unit)
    ran.1 = .error (.semaphoreExists Names.standard.simulatorSemaphore) ∧
      remnant.Untouched ran.2.space ∧ ran.2.space.count 0 = 1 := by
  intro ran
  have refused : ran.1 = .error (.semaphoreExists Names.standard.simulatorSemaphore) := rfl
  obtain ⟨-, outcome⟩ :=
    create_all_or_nothing .standard 8 (⟨remnant, (), #[]⟩ : World Nat Unit)
  rw [show ((Endpoint.create .standard 8 true).run (⟨remnant, (), #[]⟩ : World Nat Unit)).1 =
    _ from refused] at outcome
  exact ⟨refused, outcome.2, rfl⟩

/-- A forced attempt fails for the sake of a name alone. It leaves a stray object
just if the simulator's semaphore was the only one without a good name: then the name
of the robot's semaphore stays bound to what was made for it, and no other is. -/
theorem create_strays_iff [Inhabited α] (names : Names) (valueSize : Nat) {w : World α σ}
    (bounded : w.space.Bounded) :
    Ends (Endpoint.create names valueSize false) w fun r t =>
      match r with
      | .ok _ => RegionName names.region ∧ ValidName names.robotSemaphore ∧
        ValidName names.simulatorSemaphore
      | .error _ => (w.space.Strays t.space ↔ RegionName names.region ∧
          ValidName names.robotSemaphore ∧ ¬ ValidName names.simulatorSemaphore) ∧
        (∀ name id, t.space.regionNames name = some id → id < w.space.regions.size) ∧
        ∀ name id, t.space.semaphoreNames name = some id → w.space.counts.size ≤ id →
          name = names.robotSemaphore ∧ id = w.space.counts.size := by
  refine (create_attempt names valueSize false w).mono ?_
  rintro r ⟨s, peer, journal⟩ ⟨attempt, -⟩
  dsimp only at attempt ⊢
  have old : ∀ name id, w.space.semaphoreNames name = some id → w.space.counts.size ≤ id →
      name = names.robotSemaphore ∧ id = w.space.counts.size := fun name id bound fresh =>
    absurd (bounded.semaphores name id bound) (Nat.not_lt.mpr fresh)
  have passed : ∀ name id, (w.space.passedRegion names valueSize).regionNames name = some id →
      id < w.space.regions.size := fun name id bound =>
    bounded.regions name id (Space.regionNames_passedRegion bound)
  cases attempt with
  | made region robot simulator =>
    simp only [Space.admitsRegion_forced, Space.admitsSemaphore_forced] at region robot simulator
    exact ⟨region, robot, simulator⟩
  | noRegion cause region =>
    rw [Space.admitsRegion_forced] at region
    have none := Space.not_strays bounded.regions bounded.semaphores
    exact ⟨⟨fun strays => absurd strays none, fun names => absurd names.1 region⟩,
      bounded.regions, old⟩
  | noRobot cause region robot =>
    rw [Space.admitsSemaphore_forced] at robot
    have none := Space.not_strays (t := w.space.passedRegion names valueSize) passed
      bounded.semaphores
    exact ⟨⟨fun strays => absurd strays none, fun names => absurd names.2.1 robot⟩, passed, old⟩
  | noSimulator cause region robot simulator =>
    simp only [Space.admitsRegion_forced, Space.admitsSemaphore_forced] at region robot simulator
    refine ⟨⟨fun _ => ⟨region, robot, simulator⟩, fun _ => ?_⟩, passed, fun name id bound fresh => ?_⟩
    · exact .inr ⟨names.robotSemaphore, _, Bindings.bind_self _ _ _, Nat.le_refl _⟩
    · by_cases same : name = names.robotSemaphore
      · rw [same] at bound
        exact ⟨same, Option.some.inj (bound.symm.trans (Bindings.bind_self _ _ _))⟩
      · exact old name id ((Bindings.bind_other _ _ same).symm.trans bound) fresh

/-- The standard names, but for one that lacks its slash. -/
def misnamed : Names := { Names.standard with simulatorSemaphore := "simulator-semaphore" }

/-- A forced attempt under them fails and leaves the robot's semaphore behind. -/
theorem misnamed_leaves_semaphore :
    let ran := (Endpoint.create misnamed 8 false).run (⟨.empty, (), #[]⟩ : World Nat Unit)
    ran.1 = .error (.invalidName "simulator-semaphore" .noLeadingSlash) ∧
      (Space.empty : Space Nat).Strays ran.2.space ∧
      ran.2.space.semaphoreNames "/robot-semaphore" = some 0 := by
  refine ⟨rfl, .inr ⟨"/robot-semaphore", 0, ?_, Nat.le_refl _⟩, ?_⟩
  · decide +kernel
  · decide +kernel

/-- Nor is anything left of a channel that had the names, but the new semaphore. -/
theorem misnamed_strays :
    let s : Space Nat := Space.empty.withChannel .standard 8
    let ran := (Endpoint.create misnamed 8 false).run (⟨s, (), #[]⟩ : World Nat Unit)
    s.Bounded ∧ s.Strays ran.2.space ∧
      ∀ name id, ran.2.space.semaphoreNames name = some id → 2 ≤ id →
        name = "/robot-semaphore" ∧ id = 2 := by
  intro s ran
  have bounded : s.Bounded := Space.Bounded.empty.withChannel .standard 8
  have outcome := create_strays_iff misnamed 8 (w := (⟨s, (), #[]⟩ : World Nat Unit)) bounded
  unfold Ends at outcome
  rw [show ((Endpoint.create misnamed 8 false).run (⟨s, (), #[]⟩ : World Nat Unit)).1 =
    .error (.invalidName "simulator-semaphore" .noLeadingSlash) from rfl] at outcome
  obtain ⟨strays, -, only⟩ := outcome
  refine ⟨bounded, strays.mpr ⟨?_, ?_, ?_⟩, only⟩ <;> decide

end Lockstep.Channel
