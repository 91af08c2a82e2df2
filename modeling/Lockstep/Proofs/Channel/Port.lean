import Lockstep.Channel.Handle
import Lockstep.Proofs.Channel.Tenure

/-! A name space in use.

Owners create channels and let go of them, robots attach and leave, and whoever
holds an object uses it, in any order. Which owner a channel's names are bound to
is seen in the owners alone.
-/

set_option autoImplicit false

namespace Lockstep.Channel

variable {α : Type}

inductive Visit where
  | owner (d : Deed)
  | attach (names : Names) (valueSize : Nat)
  -- A robot detaches or its end is dropped.
  | leave (seat : Nat) (dropped : Bool)

/-- Only the given channels are created and attached to. -/
def Visit.Among (channels : List Names) : Visit → Prop
  | owner (.create names _ _) => names ∈ channels
  | owner (.close _) => True
  | attach names _ => names ∈ channels
  | leave _ _ => True

inductive Use (α : Type) where
  | write (region : Nat) (content : α)
  | post (semaphore : Nat)
  | take (semaphore : Nat)

def Use.apply (s : Space α) : Use α → Space α
  | write region content => s.setContent region content
  | post semaphore => s.post semaphore
  | take semaphore => (s.take? semaphore).getD s

theorem Use.agree (u : Use α) (s : Space α) (names : Names) : s.Agree (u.apply s) names := by
  cases u with
  | write region content => exact ⟨rfl, rfl, rfl⟩
  | post semaphore => exact ⟨rfl, rfl, rfl⟩
  | take semaphore =>
    simp only [apply, Space.take?]
    split <;> exact ⟨rfl, rfl, rfl⟩

theorem Use.sizes (u : Use α) (s : Space α) (id : Nat) :
    ((u.apply s).regions[id]?).map (·.size) = (s.regions[id]?).map (·.size) := by
  cases u with
  | write region content =>
    simp only [apply, Space.setContent, Array.getElem?_modify]
    split
    next => simp [Function.comp_def]
    next => rfl
  | post semaphore => rfl
  | take semaphore =>
    simp only [apply, Space.take?]
    split <;> rfl

/-- Owners with their channels, the robots in the order in which they attached,
and those robots that left. -/
structure Port (α : Type) where
  estate : Estate α
  robots : List Endpoint
  left : List Nat

namespace Port

inductive Event (α : Type) where
  | visit (v : Visit)
  | use (u : Use α)

def start (s : Space α) : Port α := ⟨⟨s, [], []⟩, [], []⟩

def present? (p : Port α) (seat : Nat) : Option Endpoint :=
  if seat ∈ p.left then none else p.robots[seat]?

def withSpace (p : Port α) (s : Space α) : Port α := { p with estate := { p.estate with space := s } }

structure Orderly (p : Port α) (channels : List Names) : Prop where
  estate : p.estate.Orderly channels
  robots : ∀ e ∈ p.robots, e.role = .robot

theorem Orderly.use {p : Port α} {channels : List Names} (orderly : p.Orderly channels) (u : Use α) :
    (p.withSpace (u.apply p.estate.space)).Orderly channels :=
  ⟨orderly.estate.onward (u.agree _) fun id _ => u.sizes _ id, orderly.robots⟩

variable [Inhabited α]

def visit (p : Port α) : Visit → Port α
  | .owner d => { p with estate := p.estate.step d }
  | .attach names valueSize =>
    match (Endpoint.attach names valueSize).run (⟨p.estate.space, (), #[]⟩ : World α Unit) with
    | (.ok e, w) => { p.withSpace w.space with robots := p.robots ++ [e] }
    | (.error _, w) => p.withSpace w.space
  | .leave seat dropped => match p.present? seat with
    | some e =>
      let leaving : Act α Unit Error Unit := if dropped then (Handle.endpoint e).release else e.close
      let w := (leaving.run (⟨p.estate.space, (), #[]⟩ : World α Unit)).2
      { p.withSpace w.space with left := seat :: p.left }
    | none => p

def step (p : Port α) : Event α → Port α
  | .visit v => p.visit v
  | .use u => p.withSpace (u.apply p.estate.space)

def run (p : Port α) (events : List (Event α)) : Port α := events.foldl step p

variable {p : Port α} {channels : List Names}

theorem Orderly.leave (orderly : p.Orderly channels) (seat : Nat) (dropped : Bool) :
    (p.visit (.leave seat dropped)).estate = p.estate ∧
      (p.visit (.leave seat dropped)).robots = p.robots := by
  simp only [visit]
  cases present : p.present? seat with
  | none => exact ⟨rfl, rfl⟩
  | some e =>
    have role : e.role = .robot := by
      unfold present? at present
      split at present
      · cases present
      · exact orderly.robots e (List.mem_of_getElem? present)
    cases dropped with
    | true => simp [withSpace, Handle.release, role]
    | false => simp [withSpace, Endpoint.close, role, World.note]

theorem Orderly.attach (orderly : p.Orderly channels) (separate : Names.Separate channels)
    {names : Names} (member : names ∈ channels) (valueSize : Nat) :
    (p.visit (.attach names valueSize)).estate = p.estate ∧
      ∀ e ∈ (p.visit (.attach names valueSize)).robots, e.role = .robot := by
  have outcome := orderly.estate.attach separate member valueSize
  simp only [visit]
  split at outcome
  next =>
    rw [outcome]
    exact ⟨rfl, orderly.robots⟩
  next o current =>
    split at outcome
    next =>
      obtain ⟨e, journal, ran, role, -⟩ := outcome
      rw [ran]
      refine ⟨rfl, fun other joined => ?_⟩
      obtain old | new := List.mem_append.mp joined
      · exact orderly.robots other old
      · obtain rfl := List.mem_singleton.mp new
        exact role
    next =>
      rw [outcome]
      exact ⟨rfl, orderly.robots⟩

theorem Orderly.visit (orderly : p.Orderly channels) (separate : Names.Separate channels)
    {v : Visit} (among : v.Among channels) : (p.visit v).Orderly channels := by
  cases v with
  | owner d =>
    refine ⟨orderly.estate.step separate ?_, orderly.robots⟩
    rintro names valueSize exclusive rfl
    exact among
  | attach names valueSize =>
    obtain ⟨estate, robots⟩ := orderly.attach separate among valueSize
    exact ⟨estate ▸ orderly.estate, robots⟩
  | leave seat dropped =>
    obtain ⟨estate, robots⟩ := orderly.leave seat dropped
    exact ⟨estate ▸ orderly.estate, robots ▸ orderly.robots⟩

theorem Orderly.run (orderly : p.Orderly channels) (separate : Names.Separate channels)
    {events : List (Event α)} (among : ∀ v, .visit v ∈ events → v.Among channels) :
    (p.run events).Orderly channels := by
  induction events generalizing p with
  | nil => exact orderly
  | cons event rest ih =>
    have later : ∀ v, .visit v ∈ rest → v.Among channels :=
      fun v member => among v (List.mem_cons_of_mem _ member)
    cases event with
    | visit v => exact ih (orderly.visit separate (among v List.mem_cons_self)) later
    | use u => exact ih (orderly.use u) later

/-- No visit touches an object that was there before. -/
theorem Orderly.preserved (orderly : p.Orderly channels) (separate : Names.Separate channels)
    {v : Visit} (among : v.Among channels) :
    p.estate.space.Preserved (p.visit v).estate.space := by
  cases v with
  | owner d =>
    cases d with
    | create names valueSize exclusive =>
      obtain ⟨-, journal, ran⟩ | ⟨-, -, ran⟩ :=
        orderly.estate.create_cases separate among valueSize exclusive
      · simp only [Port.visit, Estate.step, ran]
        exact Space.withChannel_preserved names valueSize
      · simp only [Port.visit, Estate.step, ran]
        exact .refl _
    | close seat =>
      simp only [Port.visit, Estate.step]
      split
      next o present => exact (o.endpoint.close_keeps (⟨p.estate.space, (), #[]⟩ : World α Unit)).1.preserved
      next => exact .refl _
  | attach names valueSize =>
    rw [(orderly.attach separate among valueSize).1]
    exact .refl _
  | leave seat dropped =>
    rw [(orderly.leave seat dropped).1]
    exact .refl _

/-- Names may break no rule and be bound to nothing, and still no call takes them:
not even one that may take names over makes the channel, one that may not says that
it is there already, and whoever attaches hears neither that it is not there nor
that it does not fit. -/
theorem misplaced_refused :
    let w : World Nat Unit := ⟨.empty, (), #[]⟩
    misplaced.fault? = none ∧ misplaced.region ≠ semaphorePlace misplaced.robotSemaphore ∧
    misplaced.region ≠ semaphorePlace misplaced.simulatorSemaphore ∧ misplaced.Unbound w.space ∧
    ((Endpoint.create misplaced 8 false).run w).1 = .error (.system .isDirectory) ∧
    ((Endpoint.create misplaced 8 true).run w).1 = .error (.regionExists "/.") ∧
    ((Endpoint.attach misplaced 8).run w).1 = .error (.system .invalidArgument) :=
  ⟨by decide, by decide, by decide, ⟨rfl, rfl, rfl⟩, rfl, rfl, rfl⟩

/-- After any history, the names of each channel are bound to the objects of its
current owner, or to nothing if it has none, and every call answers accordingly;
an owner that is current no more changes no name by letting go, and no call
touches an object that was there before. -/
theorem names_follow_owner (separate : Names.Separate channels) {s : Space α}
    (unbound : ∀ names ∈ channels, names.Unbound s) {events : List (Event α)}
    (among : ∀ v, .visit v ∈ events → v.Among channels) :
    let p := (start s).run events
    let w : World α Unit := ⟨p.estate.space, (), #[]⟩
    (∀ names ∈ channels, p.estate.Holds names ∧ ∀ valueSize,
      (∃ e w', (Endpoint.create names valueSize false).run w = (.ok e, w')) ∧
      ((∃ e w', (Endpoint.create names valueSize true).run w = (.ok e, w')) ↔
        names.Unbound w.space) ∧
      (∀ exclusive e w', (Endpoint.create names valueSize exclusive).run w = (.ok e, w') →
        e.New names valueSize w.space w'.space) ∧
      match p.estate.current? names with
      | none => (Endpoint.attach names valueSize).run w = (.error (.regionNotFound names.region), w)
      | some o =>
        if valueSize / regionAlignment = o.valueSize / regionAlignment then
          ∃ e journal, (Endpoint.attach names valueSize).run w =
            (.ok e, ⟨w.space, (), journal⟩) ∧ e.role = .robot ∧ e.objects = o.endpoint.objects
        else (Endpoint.attach names valueSize).run w = (.error (.sizeMismatch names.region
          (regionSizeFor valueSize) (regionSizeFor o.valueSize)), w)) ∧
    (∀ seat o, p.estate.present? seat = some o →
      lastSeat? p.estate.owners o.endpoint.names ≠ some seat →
      (p.visit (.owner (.close seat))).estate.space.regionNames = w.space.regionNames ∧
        (p.visit (.owner (.close seat))).estate.space.semaphoreNames = w.space.semaphoreNames) ∧
    ∀ v, v.Among channels → w.space.Preserved (p.visit v).estate.space := by
  intro p w
  have orderly : p.Orderly channels := Orderly.run
    ⟨.fresh unbound, fun _ member => absurd member List.not_mem_nil⟩ separate among
  refine ⟨fun names member => ⟨orderly.estate.holds names member, fun valueSize => ?_⟩,
    fun seat o present superseded => ?_, fun v among => orderly.preserved separate among⟩
  · have valid := separate.valid member
    refine ⟨?_, ⟨?_, ?_⟩, ?_, orderly.estate.attach separate member valueSize⟩
    · obtain ⟨journal, ran⟩ := create_forced valid.region valid.robot valid.simulator valueSize w
      exact ⟨_, _, ran⟩
    · rintro ⟨e, w', ran⟩
      obtain ⟨free, -⟩ | ⟨-, -, refused⟩ := orderly.estate.create_cases separate member valueSize true
      · exact free.resolve_left Bool.noConfusion
      · rw [refused] at ran
        cases ran
    · intro free
      obtain ⟨journal, ran⟩ := create_unbound valid valueSize free
      exact ⟨_, _, ran⟩
    · intro exclusive e w' ran
      obtain ⟨rfl, space, -⟩ := create_ok ran
      rw [space]
      exact Endpoint.created_new valid w.space valueSize
  · rw [show (p.visit (.owner (.close seat))).estate.space = o.endpoint.closed w.space from
      orderly.estate.sound.space_close present]
    exact orderly.estate.close_superseded present superseded

/-- A channel is taken over by one for larger values while a robot uses the first
one, and the first owner lets go last. -/
def takeover : List (Event Nat) :=
  [.visit (.owner (.create .standard 8 false)), .visit (.attach .standard 8),
    .visit (.owner (.create .standard 8 true)), .use (.write 0 7), .use (.post 1),
    .visit (.owner (.create .standard 65536 false)), .visit (.owner (.close 0))]

theorem takeover_answers :
    Names.Separate [.standard] ∧ (∀ names ∈ [Names.standard], names.Unbound (Space.empty : Space Nat)) ∧
    (∀ v, .visit v ∈ takeover → v.Among [.standard]) ∧
    let space := ((start .empty).run takeover).estate.space
    (∃ w, (Endpoint.attach .standard 8).run (⟨space, (), #[]⟩ : World Nat Unit) =
      (.error (.sizeMismatch "/development-simulator" 65536 131072), w)) ∧
    ∃ e w, (Endpoint.attach .standard 65537).run (⟨space, (), #[]⟩ : World Nat Unit) = (.ok e, w) ∧
      e.objects = ⟨1, 2, 3⟩ := by
  have separate : Names.Separate [.standard] := by
    constructor <;> simp only [List.mem_singleton, forall_eq]
    case accepted => decide
    case clear => constructor <;> decide
    case disjoint => exact .inl trivial
  have unbound : ∀ names ∈ [Names.standard], names.Unbound (Space.empty : Space Nat) :=
    fun _ _ => ⟨rfl, rfl, rfl⟩
  have among : ∀ v, .visit v ∈ takeover → v.Among [.standard] := by
    intro v member
    simp only [takeover, List.mem_cons, Event.visit.injEq, reduceCtorEq, false_or, List.not_mem_nil,
      or_false] at member
    obtain rfl | rfl | rfl | rfl | rfl := member <;> simp [Visit.Among]
  obtain ⟨each, -, -⟩ := names_follow_owner separate unbound among
  obtain ⟨-, answers⟩ := each .standard List.mem_cons_self
  obtain ⟨o, current, size, objects⟩ : ∃ o,
      ((start .empty).run takeover).estate.current? .standard = some o ∧ o.valueSize = 65536 ∧
      o.endpoint.objects = ⟨1, 2, 3⟩ := ⟨_, rfl, rfl, rfl⟩
  refine ⟨separate, unbound, among, ?_, ?_⟩
  · obtain ⟨-, -, -, refused⟩ := answers 8
    simp only [current, size] at refused
    exact ⟨_, refused⟩
  · obtain ⟨-, -, -, taken⟩ := answers 65537
    simp only [current, size] at taken
    obtain ⟨e, journal, ran, -, same⟩ := taken
    exact ⟨e, _, ran, same.trans objects⟩

end Port

end Lockstep.Channel
