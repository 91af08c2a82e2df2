import Lockstep.Proofs.Channel.Creation
import Lockstep.Proofs.Channel.Duel

/-! A creator and an attacher that get in each other's way.

Both need three objects and get them one after the other, while the other side
goes on. What is attached to is what the names are bound to at that moment.
-/

set_option autoImplicit false

namespace Lockstep.Channel

open Effect

structure Space.Bounded {α : Type} (s : Space α) : Prop where
  regions : ∀ name id, s.regionNames name = some id → id < s.regions.size
  semaphores : ∀ name id, s.semaphoreNames name = some id → id < s.counts.size

namespace Space.Bounded

variable {α : Type} {s : Space α}

theorem empty : (Space.empty : Space α).Bounded := ⟨by simp [Space.empty, Bindings.empty],
  by simp [Space.empty, Bindings.empty]⟩

theorem addRegion (bounded : s.Bounded) (name : String) (r : Region α) :
    (s.addRegion name r).2.Bounded := by
  refine ⟨fun other id found => ?_, bounded.semaphores⟩
  simp only [Space.addRegion, Array.size_push]
  by_cases same : other = name
  · simp [Space.addRegion, same] at found
    omega
  · simp only [Space.addRegion, Bindings.bind_other _ _ same] at found
    exact Nat.lt_succ_of_lt (bounded.regions other id found)

theorem addSemaphore (bounded : s.Bounded) (name : String) : (s.addSemaphore name).2.Bounded := by
  refine ⟨bounded.regions, fun other id found => ?_⟩
  simp only [Space.addSemaphore, Array.size_push]
  by_cases same : other = name
  · simp [Space.addSemaphore, same] at found
    omega
  · simp only [Space.addSemaphore, Bindings.bind_other _ _ same] at found
    exact Nat.lt_succ_of_lt (bounded.semaphores other id found)

theorem withChannel [Inhabited α] (bounded : s.Bounded) (names : Names) (valueSize : Nat) :
    (s.withChannel names valueSize).Bounded :=
  ((bounded.addRegion _ _).addSemaphore _).addSemaphore _

theorem post (bounded : s.Bounded) (id : Nat) : (s.post id).Bounded := by
  refine ⟨bounded.regions, fun name other found => ?_⟩
  rw [size_counts_post]
  exact bounded.semaphores name other found

end Space.Bounded

inductive Side where
  | creator
  | attacher
  deriving DecidableEq, Repr

inductive Progress where
  | start
  | region (r : RegionHandle)
  | robot (r : RegionHandle) (h : SemaphoreHandle)
  | done (r : RegionHandle) (t : TurnSemaphores)
  | failed (cause : Error)
  deriving DecidableEq, Repr

section

variable {α : Type}

/-- Get the next object, in the order in which both sides get them. -/
def Progress.step (region : Act α Unit Error RegionHandle)
    (semaphore : String → Act α Unit Error SemaphoreHandle) (names : Names) (p : Progress)
    (w : World α Unit) : Progress × World α Unit :=
  match p with
  | start => match region.run w with
    | (.ok r, w) => (.region r, w)
    | (.error cause, w) => (.failed cause, w)
  | .region r => match (semaphore names.robotSemaphore).run w with
    | (.ok h, w) => (.robot r h, w)
    | (.error cause, w) => (.failed cause, w)
  | robot r h => match (semaphore names.simulatorSemaphore).run w with
    | (.ok simulator, w) => (.done r ⟨h, simulator⟩, w)
    | (.error cause, w) => (.failed cause, w)
  | done r t => (.done r t, w)
  | failed cause => (.failed cause, w)

structure Race (α : Type) where
  creator : Progress
  attacher : Progress
  world : World α Unit

namespace Race

def start (w : World α Unit) : Race α := ⟨.start, .start, w⟩

def step [Inhabited α] (names : Names) (valueSize : Nat) (race : Race α) : Side → Race α
  | .creator =>
    let (creator, world) := race.creator.step (createRegion names.region valueSize true)
      (createSemaphore · true) names race.world
    { race with creator := creator, world := world }
  | .attacher =>
    let (attacher, world) := race.attacher.step (attachRegion names.region valueSize)
      openSemaphore names race.world
    { race with attacher := attacher, world := world }

def run [Inhabited α] (names : Names) (valueSize : Nat) (race : Race α) (schedule : List Side) :
    Race α :=
  schedule.foldl (step names valueSize) race

def simulator? (names : Names) (race : Race α) : Option Endpoint :=
  match race.creator with
  | .done r t => some ⟨.simulator, names, r, t, .active, 0⟩
  | _ => none

def robot? (names : Names) (race : Race α) : Option Endpoint :=
  match race.attacher with
  | .done r t => some ⟨.robot, names, r, t, .waiting, 0⟩
  | _ => none

end Race

/-- Steps of the creator before the attacher's next step but `k`. -/
def lead : List Side → Nat → Nat
  | [], _ => 0
  | .creator :: rest, k => lead rest k + 1
  | .attacher :: _, 0 => 0
  | .attacher :: rest, k + 1 => lead rest k

/-- A name space after some steps of a creator. -/
def Space.stage [Inhabited α] (s : Space α) (names : Names) (valueSize : Nat) : Nat → Space α
  | 0 => s
  | 1 => (s.addRegion names.region ⟨regionSizeFor valueSize, default⟩).2
  | 2 => ((s.addRegion names.region ⟨regionSizeFor valueSize, default⟩).2.addSemaphore
      names.robotSemaphore).2
  | _ => s.withChannel names valueSize

def Progress.stage (s : Space α) (names : Names) (valueSize : Nat) : Nat → Progress
  | 0 => .start
  | 1 => .region (Endpoint.created s names valueSize).region
  | 2 => .robot (Endpoint.created s names valueSize).region
      (Endpoint.created s names valueSize).turns.robot
  | _ => .done (Endpoint.created s names valueSize).region
      (Endpoint.created s names valueSize).turns

theorem Progress.stage_eq_done {s : Space α} {names : Names} {valueSize : Nat} {r : RegionHandle}
    {t : TurnSemaphores} {n : Nat} (done : stage s names valueSize n = .done r t) :
    3 ≤ n ∧ r = (Endpoint.created s names valueSize).region ∧
      t = (Endpoint.created s names valueSize).turns := by
  match n with
  | 0 | 1 | 2 => simp [stage] at done
  | n + 3 =>
    simp only [stage, Progress.done.injEq] at done
    exact ⟨by omega, done.1.symm, done.2.symm⟩

namespace Race

variable [Inhabited α] {names : Names} {valueSize : Nat} {s : Space α}

theorem step_creator (valid : names.Valid) {race : Race α} {n : Nat}
    (creator : race.creator = .stage s names valueSize n)
    (space : race.world.space = s.stage names valueSize n) :
    (race.step names valueSize .creator).creator = .stage s names valueSize (n + 1) ∧
      (race.step names valueSize .creator).world.space = s.stage names valueSize (n + 1) ∧
      (race.step names valueSize .creator).attacher = race.attacher := by
  match n with
  | 0 =>
    obtain ⟨-, -, journal, ran⟩ | ⟨refused, -⟩ :=
      createRegion_cases names.region valueSize true race.world
    · simp only [step, creator, Progress.stage, Progress.step, ran]
      rw [space]
      exact ⟨rfl, rfl, trivial⟩
    · simp [valid.region] at refused
  | 1 =>
    obtain ⟨-, -, journal, ran⟩ | ⟨refused, -⟩ :=
      createSemaphore_cases names.robotSemaphore true race.world
    · simp only [step, creator, Progress.stage, Progress.step, ran]
      rw [space]
      exact ⟨rfl, rfl, trivial⟩
    · simp [valid.robot] at refused
  | 2 =>
    obtain ⟨-, -, journal, ran⟩ | ⟨refused, -⟩ :=
      createSemaphore_cases names.simulatorSemaphore true race.world
    · simp only [step, creator, Progress.stage, Progress.step, ran]
      rw [space]
      refine ⟨?_, rfl, trivial⟩
      simp [Endpoint.created, TurnSemaphores.created, Space.stage, Space.addRegion,
        Space.addSemaphore]
    · simp [valid.simulator] at refused
  | n + 3 =>
    simp only [step, creator, Progress.stage, Progress.step]
    exact ⟨trivial, space, trivial⟩

/-- What an attacher ends up with, given the name spaces in which its next steps take place. -/
def Gets (names : Names) (valueSize : Nat) (s : Space α) (n : Nat) (schedule : List Side)
    (r : RegionHandle) (t : TurnSemaphores) : Progress → Prop
  | .start => (s.stage names valueSize (n + lead schedule 0)).regionNames names.region = some r.id ∧
    (s.stage names valueSize (n + lead schedule 1)).semaphoreNames names.robotSemaphore =
      some t.robot.id ∧
    (s.stage names valueSize (n + lead schedule 2)).semaphoreNames names.simulatorSemaphore =
      some t.simulator.id
  | .region region => region = r ∧
    (s.stage names valueSize (n + lead schedule 0)).semaphoreNames names.robotSemaphore =
      some t.robot.id ∧
    (s.stage names valueSize (n + lead schedule 1)).semaphoreNames names.simulatorSemaphore =
      some t.simulator.id
  | .robot region robot => region = r ∧ robot = t.robot ∧
    (s.stage names valueSize (n + lead schedule 0)).semaphoreNames names.simulatorSemaphore =
      some t.simulator.id
  | .done region turns => region = r ∧ turns = t
  | .failed _ => False

theorem step_attacher {race : Race α} {n : Nat} {rest : List Side} {r : RegionHandle}
    {t : TurnSemaphores} (space : race.world.space = s.stage names valueSize n)
    (gets : Gets names valueSize s n rest r t (race.step names valueSize .attacher).attacher) :
    Gets names valueSize s n (.attacher :: rest) r t race.attacher := by
  cases progress : race.attacher with
  | start =>
    obtain ⟨id, found, journal, ran⟩ | ⟨cause, ran⟩ :=
      attachRegion_cases names.region valueSize race.world
    · simp only [step, progress, Progress.step, ran] at gets
      obtain ⟨rfl, gets⟩ := gets
      rw [space] at found
      exact ⟨found, gets⟩
    · simp only [step, progress, Progress.step, ran] at gets
      exact gets.elim
  | region region =>
    obtain ⟨id, found, journal, ran⟩ | ⟨cause, ran⟩ :=
      openSemaphore_cases names.robotSemaphore race.world
    · simp only [step, progress, Progress.step, ran] at gets
      obtain ⟨same, robot, gets⟩ := gets
      rw [space] at found
      refine ⟨same, ?_, gets⟩
      rw [← robot]
      exact found
    · simp only [step, progress, Progress.step, ran] at gets
      exact gets.elim
  | robot region robot =>
    obtain ⟨id, found, journal, ran⟩ | ⟨cause, ran⟩ :=
      openSemaphore_cases names.simulatorSemaphore race.world
    · simp only [step, progress, Progress.step, ran] at gets
      obtain ⟨same, turns⟩ := gets
      rw [space] at found
      subst turns
      exact ⟨same, rfl, found⟩
    · simp only [step, progress, Progress.step, ran] at gets
      exact gets.elim
  | done region turns =>
    simp only [step, progress, Progress.step] at gets
    exact gets
  | failed cause =>
    simp only [step, progress, Progress.step] at gets
    exact gets

theorem step_attacher_keeps (names : Names) (valueSize : Nat) (race : Race α) :
    (race.step names valueSize .attacher).creator = race.creator ∧
      (race.step names valueSize .attacher).world.space = race.world.space := by
  cases progress : race.attacher with
  | start =>
    obtain ⟨id, -, journal, ran⟩ | ⟨cause, ran⟩ :=
      attachRegion_cases names.region valueSize race.world <;>
    simp only [step, progress, Progress.step, ran, and_self]
  | region region =>
    obtain ⟨id, -, journal, ran⟩ | ⟨cause, ran⟩ :=
      openSemaphore_cases names.robotSemaphore race.world <;>
    simp only [step, progress, Progress.step, ran, and_self]
  | robot region robot =>
    obtain ⟨id, -, journal, ran⟩ | ⟨cause, ran⟩ :=
      openSemaphore_cases names.simulatorSemaphore race.world <;>
    simp only [step, progress, Progress.step, ran, and_self]
  | done region turns => simp only [step, progress, Progress.step, and_self]
  | failed cause => simp only [step, progress, Progress.step, and_self]

/-- A whole race: the creator is at the stage that its steps lead to, and the
attacher has got what was due when its own steps took place. -/
theorem run_cases (valid : names.Valid) (schedule : List Side) {race : Race α} {n : Nat}
    (creator : race.creator = .stage s names valueSize n)
    (space : race.world.space = s.stage names valueSize n) :
    (race.run names valueSize schedule).creator =
        .stage s names valueSize (n + schedule.count .creator) ∧
      (race.run names valueSize schedule).world.space =
        s.stage names valueSize (n + schedule.count .creator) ∧
      ∀ r t, (race.run names valueSize schedule).attacher = .done r t →
        Gets names valueSize s n schedule r t race.attacher := by
  induction schedule generalizing race n with
  | nil =>
    refine ⟨creator, space, fun r t done => ?_⟩
    rw [show race.attacher = .done r t from done]
    exact ⟨rfl, rfl⟩
  | cons side rest ih =>
    cases side with
    | creator =>
      obtain ⟨stepped, moved, waited⟩ := step_creator valid creator space
      obtain ⟨last, after, gets⟩ := ih stepped moved
      have counted : n + (Side.creator :: rest).count .creator = n + 1 + rest.count .creator := by
        simp only [List.count_cons_self]
        omega
      rw [counted]
      refine ⟨last, after, fun r t done => ?_⟩
      have due := gets r t done
      rw [waited] at due
      -- The creator's step is the first of its lead over every step of the attacher.
      have ahead (k : Nat) : n + lead (.creator :: rest) k = n + 1 + lead rest k := by
        simp only [lead]
        omega
      cases progress : race.attacher with
      | failed _ =>
        rw [progress] at due
        exact due.elim
      | _ =>
        rw [progress] at due
        simpa only [Gets, ahead] using due
    | attacher =>
      obtain ⟨stayed, same⟩ := step_attacher_keeps names valueSize race
      obtain ⟨last, after, gets⟩ := ih (stayed.trans creator) (same.trans space)
      have counted : (Side.attacher :: rest).count .creator = rest.count .creator := by
        simp
      rw [counted]
      exact ⟨last, after, fun r t done => step_attacher space (gets r t done)⟩

end Race

section

variable [Inhabited α] {names : Names} {valueSize : Nat} {s : Space α}

theorem regionNames_stage (n : Nat) :
    (s.stage names valueSize n).regionNames names.region =
      if 1 ≤ n then some s.regions.size else s.regionNames names.region := by
  match n with
  | 0 => rfl
  | 1 => simp [Space.stage, Space.addRegion]
  | 2 => simp [Space.stage, Space.addRegion, Space.addSemaphore]
  | n + 3 =>
    simp [Space.stage, Space.withChannel, Space.withSemaphores, Space.addRegion, Space.addSemaphore]

theorem robotNames_stage (valid : names.Valid) (n : Nat) :
    (s.stage names valueSize n).semaphoreNames names.robotSemaphore =
      if 2 ≤ n then some s.counts.size else s.semaphoreNames names.robotSemaphore := by
  match n with
  | 0 => rfl
  | 1 => simp [Space.stage, Space.addRegion]
  | 2 => simp [Space.stage, Space.addRegion, Space.addSemaphore]
  | n + 3 =>
    simp [Space.stage, Space.withChannel, Space.withSemaphores, Space.addRegion,
      Space.addSemaphore, Bindings.bind_other _ _ valid.differ]

theorem simulatorNames_stage (valid : names.Valid) (n : Nat) :
    (s.stage names valueSize n).semaphoreNames names.simulatorSemaphore =
      if 3 ≤ n then some (s.counts.size + 1) else s.semaphoreNames names.simulatorSemaphore := by
  match n with
  | 0 => rfl
  | 1 => simp [Space.stage, Space.addRegion]
  | 2 =>
    simp [Space.stage, Space.addRegion, Space.addSemaphore,
      Bindings.bind_other _ _ valid.differ.symm]
  | n + 3 =>
    simp [Space.stage, Space.withChannel, Space.withSemaphores, Space.addRegion,
      Space.addSemaphore]

theorem fresh_iff {replaced : Prop} [Decidable replaced] {old : Option Nat} {fresh id : Nat}
    (older : ∀ id, old = some id → id ≠ fresh)
    (found : (if replaced then some fresh else old) = some id) : id = fresh ↔ replaced := by
  split at found
  next yes =>
    cases found
    exact iff_of_true rfl yes
  next no => exact iff_of_false (older id found) no

/-- All three objects of one endpoint are another's, or none of them is. -/
def OneCreator (e f : Endpoint) : Prop :=
  e.objects = f.objects ∨ e.region.id ≠ f.region.id ∧ e.turns.robot.id ≠ f.turns.robot.id ∧
    e.turns.simulator.id ≠ f.turns.simulator.id

/-- What a creator and an attacher end up with when both succeed. -/
theorem Race.ends (valid : names.Valid) {w : World α Unit} {schedule : List Side} {e f : Endpoint}
    (created : ((start w).run names valueSize schedule).simulator? names = some e)
    (attached : ((start w).run names valueSize schedule).robot? names = some f) :
    e = .created w.space names valueSize ∧
      ((start w).run names valueSize schedule).world.space = w.space.withChannel names valueSize ∧
      f.role = .robot ∧ f.phase = .waiting ∧
      (if 1 ≤ lead schedule 0 then some w.space.regions.size
        else w.space.regionNames names.region) = some f.region.id ∧
      (if 2 ≤ lead schedule 1 then some w.space.counts.size
        else w.space.semaphoreNames names.robotSemaphore) = some f.turns.robot.id ∧
      (if 3 ≤ lead schedule 2 then some (w.space.counts.size + 1)
        else w.space.semaphoreNames names.simulatorSemaphore) = some f.turns.simulator.id := by
  have fresh : (start w).creator = .stage w.space names valueSize 0 := rfl
  have untouched : (start w).world.space = w.space.stage names valueSize 0 := rfl
  obtain ⟨creator, space, gets⟩ := run_cases valid schedule fresh untouched
  unfold simulator? at created
  unfold robot? at attached
  split at created
  next r t done =>
    split at attached
    next region turns progress =>
      cases created
      cases attached
      obtain ⟨whole, rfl, rfl⟩ := Progress.stage_eq_done (creator.symm.trans done)
      obtain ⟨regionFound, robotFound, simulatorFound⟩ := gets region turns progress
      rw [Nat.zero_add, regionNames_stage] at regionFound
      rw [Nat.zero_add, robotNames_stage valid] at robotFound
      rw [Nat.zero_add, simulatorNames_stage valid] at simulatorFound
      refine ⟨rfl, ?_, rfl, rfl, regionFound, robotFound, simulatorFound⟩
      rw [space]
      obtain ⟨n, counted⟩ := Nat.exists_eq_add_of_le whole
      rw [counted, Nat.add_comm]
      rfl
    next => contradiction
  next => contradiction

theorem Race.regionName_of_simulator? {w : World α Unit} {schedule : List Side} {e : Endpoint}
    (created : ((start w).run names valueSize schedule).simulator? names = some e) :
    RegionName names.region := by
  by_contra refused
  have stopped (race : Race α)
      (early : race.creator = .start ∨ ∃ cause, race.creator = .failed cause) :
      (race.run names valueSize schedule).simulator? names = none := by
    clear created
    induction schedule generalizing race with
    | nil => obtain begun | ⟨cause, failed⟩ := early <;> simp [run, simulator?, *]
    | cons side rest ih =>
      refine ih _ ?_
      cases side with
      | attacher => exact early
      | creator =>
        right
        obtain begun | ⟨cause, failed⟩ := early
        · obtain ⟨named, -⟩ | ⟨-, cause, journal, ran⟩ :=
            createRegion_cases names.region valueSize true race.world
          · exact absurd named refused
          · exact ⟨cause, by simp only [step, begun, Progress.step, ran]⟩
        · exact ⟨cause, by simp only [step, failed, Progress.step]⟩
  cases created.symm.trans (stopped (start w) (.inl rfl))

/-- A creator that nobody gets in the way of does what it does in one go. -/
theorem Race.create_alone (valid : names.Valid) (w : World α Unit) :
    ∃ e journal, ((start w).run names valueSize [.creator, .creator, .creator]).simulator? names =
        some e ∧
      (Endpoint.create names valueSize false).run w = (.ok e,
        ⟨((start w).run names valueSize [.creator, .creator, .creator]).world.space, (), journal⟩) := by
  have fresh : (start w).creator = .stage w.space names valueSize 0 := rfl
  have untouched : (start w).world.space = w.space.stage names valueSize 0 := rfl
  obtain ⟨creator, space, -⟩ :=
    run_cases valid [.creator, .creator, .creator] fresh untouched
  obtain ⟨journal, ran⟩ := create_forced valid.region valid.robot valid.simulator valueSize w
  refine ⟨.created w.space names valueSize, journal, ?_, ?_⟩
  · rw [simulator?, creator]
    rfl
  · rw [ran, space]
    rfl

/-- So does an attacher. -/
theorem Race.attach_alone (names : Names) (valueSize : Nat) (w : World α Unit) (f : Endpoint) :
    ((start w).run names valueSize [.attacher, .attacher, .attacher]).robot? names = some f ↔
      ((Endpoint.attach names valueSize).run w).1 = .ok f := by
  simp only [Endpoint.attach, TurnSemaphores.openBoth, run_bind, run, List.foldl_cons,
    List.foldl_nil, step, start, Progress.step]
  rcases (attachRegion names.region valueSize).run w with ⟨_ | region, w⟩
  · simp [robot?]
  · dsimp only [Progress.step]
    rcases (openSemaphore names.robotSemaphore).run w with ⟨_ | robot, w⟩
    · simp [robot?]
    · dsimp only [Progress.step]
      rcases (openSemaphore names.simulatorSemaphore).run w with ⟨_ | simulator, w⟩ <;>
        simp [robot?]

/-- An attacher may get hold of a half-replaced channel. It does not just if it
is behind the creator with every object or ahead of it with every object; and a
robot that is in between can get at the region during the simulator's turn just
if an older simulator left a turn behind. -/
theorem attach_race_iff (accepted : names.fault? = none) {w : World α Unit}
    (bounded : w.space.Bounded) {schedule : List Side} {e f : Endpoint}
    (created : ((Race.start w).run names valueSize schedule).simulator? names = some e)
    (attached : ((Race.start w).run names valueSize schedule).robot? names = some f) :
    (OneCreator f e ↔
      (1 ≤ lead schedule 0 ∧ 2 ≤ lead schedule 1 ∧ 3 ≤ lead schedule 2) ∨
        (lead schedule 0 = 0 ∧ lead schedule 1 ≤ 1 ∧ lead schedule 2 ≤ 2)) ∧
    ((∃ calls, (Duel.run
        ⟨((Race.start w).run names valueSize schedule).world.space, e, f⟩ calls).Clash) ↔
      1 ≤ lead schedule 0 ∧ lead schedule 2 ≤ 2 ∧
        ∃ id, w.space.semaphoreNames names.simulatorSemaphore = some id ∧ 0 < w.space.count id) := by
  have valid := Names.valid_of_fault accepted (Race.regionName_of_simulator? created).free
  obtain ⟨rfl, space, role, waiting, regionFound, robotFound, simulatorFound⟩ :=
    Race.ends valid created attached
  have region := fresh_iff
    (fun id found => Nat.ne_of_lt (bounded.regions _ id found)) regionFound
  have robot := fresh_iff
    (fun id found => Nat.ne_of_lt (bounded.semaphores _ id found)) robotFound
  have simulator := fresh_iff
    (fun id found => Nat.ne_of_lt (Nat.lt_succ_of_lt (bounded.semaphores _ id found)))
    simulatorFound
  have objects : f.objects = (Endpoint.created w.space names valueSize).objects ↔
      f.region.id = w.space.regions.size ∧ f.turns.robot.id = w.space.counts.size ∧
        f.turns.simulator.id = w.space.counts.size + 1 := by
    simp [Endpoint.objects, Endpoint.created, TurnSemaphores.created]
  have names' : (Endpoint.created w.space names valueSize).region.id = w.space.regions.size ∧
      (Endpoint.created w.space names valueSize).turns.robot.id = w.space.counts.size ∧
      (Endpoint.created w.space names valueSize).turns.simulator.id = w.space.counts.size + 1 :=
    ⟨rfl, rfl, rfl⟩
  constructor
  · rw [OneCreator, objects, names'.1, names'.2.1, names'.2.2, Ne, Ne, Ne, region, robot, simulator]
    omega
  · have fresh (id : Nat) (beyond : w.space.counts.size ≤ id) :
        (w.space.withChannel names valueSize).count id = 0 := by
      rw [count_withChannel]
      exact Space.count_eq_zero_of_size_le _ beyond
    have behind : f.turns.robot.id ≤ w.space.counts.size := by
      split at robotFound
      next => exact Nat.le_of_eq (Option.some.inj robotFound).symm
      next => exact Nat.le_of_lt (bounded.semaphores _ _ robotFound)
    have opening : (⟨w.space.withChannel names valueSize,
        .created w.space names valueSize, f⟩ : Duel α).Opening := by
      constructor
      case simulatorRole => rfl
      case robotRole => exact role
      case active => rfl
      case waiting => exact waiting
      case apart => exact Nat.ne_of_lt (Nat.lt_succ_self _)
      case foreign =>
        exact Nat.ne_of_lt (Nat.lt_succ_of_le behind)
      case robotExists =>
        rw [size_counts_withChannel, names'.2.1]
        omega
      case simulatorExists =>
        rw [size_counts_withChannel, names'.2.2]
        omega
      case robotFresh => exact fresh _ (Nat.le_refl _)
      case simulatorFresh => exact fresh _ (Nat.le_succ _)
    rw [space, opening.clash_iff, names'.1, names'.2.2, Ne, region, simulator, count_withChannel]
    refine and_congr_right fun _ => ?_
    rw [Nat.not_le, Nat.lt_succ_iff]
    refine and_congr_right fun few => ?_
    rw [if_neg (by omega)] at simulatorFound
    simp [simulatorFound]

end

/-- Left behind by a simulator that gave its first turn away and crashed. -/
def abandoned : Space Nat := (Space.withChannel .empty .standard 8).post 1

/-- The attacher comes when only the region was replaced. -/
def between : List Side := [.creator, .attacher, .attacher, .attacher, .creator, .creator]

def raced : Race Nat := (Race.start ⟨abandoned, (), #[]⟩).run .standard 8 between

theorem abandoned_bounded : abandoned.Bounded := (Space.Bounded.empty.withChannel _ _).post _

instance (e f : Endpoint) : Decidable (OneCreator e f) :=
  inferInstanceAs (Decidable (_ ∨ _))

instance (d : Duel α) : Decidable d.Clash := inferInstanceAs (Decidable (_ ∧ _))

theorem attach_mixes_channels : ∃ e f, raced.simulator? .standard = some e ∧
    raced.robot? .standard = some f ∧ ¬ OneCreator f e ∧
    (Duel.run ⟨raced.world.space, e, f⟩ [(.robot, .awaitForever)]).Clash := by
  refine ⟨_, _, rfl, rfl, ?_, ?_⟩
  · decide +kernel
  · decide +kernel

theorem between_clashes : ∃ e f, raced.simulator? .standard = some e ∧
    raced.robot? .standard = some f ∧
    ∃ calls, (Duel.run ⟨raced.world.space, e, f⟩ calls).Clash := by
  have accepted : Names.standard.fault? = none := by decide
  have created : raced.simulator? .standard = some (.created abandoned .standard 8) := rfl
  have attached : raced.robot? .standard = some (.attached .standard 8 1 0 1) := rfl
  refine ⟨_, _, created, attached, ?_⟩
  exact (attach_race_iff accepted abandoned_bounded created attached).2.mpr
    ⟨by decide, by decide, 1, by decide, by decide⟩

end

end Lockstep.Channel
