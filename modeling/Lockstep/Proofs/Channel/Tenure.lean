import Lockstep.Proofs.Channel.Owners

/-! Which owner the names of a channel are bound to, where any two channels have
all of their names in common or none.

A channel's names follow the last owner that created one under them until that
owner lets go. An owner that was superseded has nothing left to let go of.
-/

set_option autoImplicit false

namespace Lockstep.Channel

open Effect

variable {α : Type}

structure Names.Unbound (names : Names) (s : Space α) : Prop where
  region : s.regionNames names.region = none
  robot : s.semaphoreNames names.robotSemaphore = none
  simulator : s.semaphoreNames names.simulatorSemaphore = none

structure Names.Disjoint (names other : Names) : Prop where
  region : names.region ≠ other.region
  apart : names.Apart other

/-- The name of the region in whose place the system keeps a semaphore. -/
def semaphorePlace (name : String) : String := "/sem." ++ String.ofList (name.toList.drop 1)

/-- A channel whose region is where the system keeps nothing else: no directory, and
neither of the semaphores of a channel, be it another one or the same. -/
structure Names.Clear (names other : Names) : Prop where
  directory : names.region ∉ directoryNames
  robot : names.region ≠ semaphorePlace other.robotSemaphore
  simulator : names.region ≠ semaphorePlace other.simulatorSemaphore

/-- A channel that would have its region where the directory of all regions is. -/
def misplaced : Names := { Names.standard with region := "/." }

/-- Channels of which any two have all names in common or none. -/
structure Names.Separate (channels : List Names) : Prop where
  accepted : ∀ names ∈ channels, names.fault? = none
  clear : ∀ names ∈ channels, ∀ other ∈ channels, names.Clear other
  disjoint : ∀ names ∈ channels, ∀ other ∈ channels, names = other ∨ names.Disjoint other

theorem Names.Separate.valid {channels : List Names} (separate : Names.Separate channels)
    {names : Names} (member : names ∈ channels) : names.Valid :=
  Names.valid_of_fault (separate.accepted names member)
    (separate.clear names member names member).directory

namespace Space

structure Agree (s t : Space α) (names : Names) : Prop where
  region : t.regionNames names.region = s.regionNames names.region
  robot : t.semaphoreNames names.robotSemaphore = s.semaphoreNames names.robotSemaphore
  simulator : t.semaphoreNames names.simulatorSemaphore = s.semaphoreNames names.simulatorSemaphore

structure Preserved (s t : Space α) : Prop where
  regions : ∀ id < s.regions.size, t.regions[id]? = s.regions[id]?
  counts : ∀ id < s.counts.size, t.counts[id]? = s.counts[id]?

variable {s t : Space α} {names other : Names}

theorem Agree.of_eq (regions : t.regionNames = s.regionNames)
    (semaphores : t.semaphoreNames = s.semaphoreNames) (names : Names) : s.Agree t names :=
  ⟨by rw [regions], by rw [semaphores], by rw [semaphores]⟩

theorem Agree.bound_iff {e : Endpoint} (agree : s.Agree t e.names) : e.Bound t ↔ e.Bound s := by
  unfold Endpoint.Bound
  rw [agree.region, agree.robot, agree.simulator]

theorem Agree.unbound (agree : s.Agree t names) (unbound : names.Unbound s) : names.Unbound t :=
  ⟨agree.region.trans unbound.region, agree.robot.trans unbound.robot,
    agree.simulator.trans unbound.simulator⟩

theorem Preserved.refl (s : Space α) : s.Preserved s := ⟨fun _ _ => rfl, fun _ _ => rfl⟩

theorem SameObjects.preserved (same : s.SameObjects t) : s.Preserved t :=
  ⟨fun _ _ => by rw [same.regions], fun _ _ => by rw [same.counts]⟩

variable [Inhabited α]

theorem withChannel_agree (disjoint : names.Disjoint other) (valueSize : Nat) :
    s.Agree (s.withChannel names valueSize) other := by
  obtain ⟨⟨robotRobot, robotSimulator⟩, simulatorRobot, simulatorSimulator⟩ :
      (names.robotSemaphore ≠ other.robotSemaphore ∧
        names.robotSemaphore ≠ other.simulatorSemaphore) ∧
      names.simulatorSemaphore ≠ other.robotSemaphore ∧
        names.simulatorSemaphore ≠ other.simulatorSemaphore := by
    simpa [Names.Apart] using disjoint.apart
  constructor
  · exact Bindings.bind_other _ _ disjoint.region.symm
  · exact (Bindings.bind_other _ _ simulatorRobot.symm).trans
      (Bindings.bind_other _ _ robotRobot.symm)
  · exact (Bindings.bind_other _ _ simulatorSimulator.symm).trans
      (Bindings.bind_other _ _ robotSimulator.symm)

theorem withChannel_preserved (names : Names) (valueSize : Nat) :
    s.Preserved (s.withChannel names valueSize) := by
  constructor
  · intro id old
    exact s.regions_addRegion names.region _ old
  · intro id old
    simp [withChannel, withSemaphores, addSemaphore, addRegion, Array.getElem?_push,
      Nat.ne_of_lt old, Nat.ne_of_lt (Nat.lt_succ_of_lt old)]

end Space

/-- A channel that is new in a name space: nobody had its objects before, its
region is blank and its semaphores count 0, and its names are bound to them. -/
structure Endpoint.New [Inhabited α] (e : Endpoint) (names : Names) (valueSize : Nat)
    (s t : Space α) : Prop where
  named : e.names = names
  region : s.regions.size ≤ e.region.id
  blank : t.regions[e.region.id]? = some ⟨regionSizeFor valueSize, default⟩
  robot : s.counts.size ≤ e.turns.robot.id ∧ t.counts[e.turns.robot.id]? = some 0
  simulator : s.counts.size ≤ e.turns.simulator.id ∧ t.counts[e.turns.simulator.id]? = some 0
  differ : e.turns.robot.id ≠ e.turns.simulator.id
  bound : e.Bound t

section

variable [Inhabited α]

theorem Endpoint.created_new {names : Names} (valid : names.Valid) (s : Space α)
    (valueSize : Nat) : (Endpoint.created s names valueSize).New names valueSize s
      (s.withChannel names valueSize) := by
  constructor
  case named => rfl
  case region => exact Nat.le_refl _
  case blank =>
    simp [created, Space.withChannel, Space.withSemaphores, Space.addSemaphore, Space.addRegion]
  case robot =>
    refine ⟨Nat.le_refl _, ?_⟩
    change ((s.counts.push 0).push 0)[s.counts.size]? = some 0
    rw [Array.getElem?_push, Array.size_push, if_neg (Nat.ne_of_lt (Nat.lt_succ_self _)),
      Array.getElem?_push_size]
  case simulator =>
    refine ⟨Nat.le_succ _, ?_⟩
    change ((s.counts.push 0).push 0)[s.counts.size + 1]? = some 0
    rw [Array.getElem?_push, Array.size_push, if_pos rfl]
  case differ => exact Nat.ne_of_lt (Nat.lt_succ_self _)
  case bound =>
    refine ⟨Bindings.bind_self _ _ _, ?_, ?_⟩
    · exact (Bindings.bind_other _ _ valid.differ).trans (Bindings.bind_self _ _ _)
    · simp [created, TurnSemaphores.created, Space.withChannel, Space.withSemaphores,
        Space.addSemaphore, Space.addRegion]

variable {σ : Type}

theorem create_unbound {names : Names} (valid : names.Valid) (valueSize : Nat) {w : World α σ}
    (unbound : names.Unbound w.space) : ∃ journal,
    (Endpoint.create names valueSize true).run w = (.ok (.created w.space names valueSize),
      ⟨w.space.withChannel names valueSize, w.peer, journal⟩) := by
  obtain ⟨-, -, first, region⟩ | ⟨refused, -⟩ := createRegion_cases names.region valueSize false w
  case inr => simp [valid.region, unbound.region] at refused
  obtain ⟨-, -, second, robot⟩ | ⟨refused, -⟩ := createSemaphore_cases names.robotSemaphore false
    (⟨(w.space.addRegion names.region ⟨regionSizeFor valueSize, default⟩).2, w.peer, first⟩ :
      World α σ)
  case inr => simp [valid.robot, Space.addRegion, unbound.robot] at refused
  obtain ⟨-, -, third, simulator⟩ | ⟨refused, -⟩ := createSemaphore_cases names.simulatorSemaphore
    false (⟨((w.space.addRegion names.region ⟨regionSizeFor valueSize, default⟩).2.addSemaphore
      names.robotSemaphore).2, w.peer, second⟩ : World α σ)
  case inr =>
    have free : ((w.space.addRegion names.region ⟨regionSizeFor valueSize, default⟩).2.addSemaphore
        names.robotSemaphore).2.semaphoreNames names.simulatorSemaphore = none :=
      (Bindings.bind_other _ _ valid.differ.symm).trans unbound.simulator
    simp [valid.simulator, free] at refused
  refine ⟨third.push (createdRecord names), ?_⟩
  simp only [run_create, Bool.not_true, region, createTurns, if_true, run_createExclusive, robot,
    simulator, size_counts_addSemaphore]
  rfl

end

theorem create_bound [Inhabited α] {σ : Type} {names : Names} (valid : names.Valid)
    (valueSize : Nat) {w : World α σ} {id : Nat}
    (bound : w.space.regionNames names.region = some id) :
    (Endpoint.create names valueSize true).run w = (.error (.regionExists names.region), w) := by
  simp [run_create, createRegion, createObject, requireName_valid valid.region.valid, bound]

theorem attach_missing {σ : Type} {names : Names} (valid : names.Valid) (valueSize : Nat)
    {w : World α σ} (missing : w.space.regionNames names.region = none) :
    (Endpoint.attach names valueSize).run w = (.error (.regionNotFound names.region), w) := by
  simp [Endpoint.attach, attachRegion, openObject, requireName_valid valid.region.valid,
    valid.region.free, missing]

theorem attach_misfit {σ : Type} {names : Names} (valid : names.Valid)
    {valueSize actual region : Nat} {w : World α σ}
    (found : w.space.regionNames names.region = some region)
    (sized : (w.space.regions[region]?).map (·.size) = some actual)
    (misfit : actual ≠ regionSizeFor valueSize) : (Endpoint.attach names valueSize).run w =
      (.error (.sizeMismatch names.region (regionSizeFor valueSize) actual), w) := by
  simp [Endpoint.attach, attachRegion, openObject, requireName_valid valid.region.valid,
    valid.region.free, found, sized, misfit]

/-- Regions for values of two sizes are as large if as many whole blocks go into both. -/
theorem regionSizeFor_eq_iff (size other : Nat) :
    regionSizeFor size = regionSizeFor other ↔ size / regionAlignment = other / regionAlignment := by
  unfold regionSizeFor regionAlignment
  omega

def lastSeat? (owners : List Owner) (names : Names) : Option Nat :=
  (owners.zipIdx.filter fun (o, _) => o.endpoint.names = names).getLast?.map (·.2)

theorem lastSeat?_append (owners : List Owner) (o : Owner) (names : Names) :
    lastSeat? (owners ++ [o]) names =
      if o.endpoint.names = names then some owners.length else lastSeat? owners names := by
  unfold lastSeat?
  rw [List.zipIdx_append, List.filter_append]
  split
  next same => simp [same]
  next other => simp [other]

theorem lastSeat?_eq_some {owners : List Owner} {names : Names} {seat : Nat}
    (last : lastSeat? owners names = some seat) :
    ∃ o, owners[seat]? = some o ∧ o.endpoint.names = names := by
  obtain ⟨⟨o, _⟩, found, rfl⟩ := Option.map_eq_some_iff.mp last
  have member := List.mem_of_getLast? found
  rw [List.mem_filter] at member
  exact ⟨o, (List.mem_zipIdx_iff_getElem?.mp member.1), by simpa using member.2⟩

namespace Estate

/-- The last owner to have created a channel under some names, unless it has let go. -/
def current? (p : Estate α) (names : Names) : Option Owner :=
  (lastSeat? p.owners names).bind p.present?

/-- Names are bound to the objects of their current owner, or to nothing if there is none. -/
def Holds (p : Estate α) (names : Names) : Prop :=
  match p.current? names with
  | some o => o.endpoint.Bound p.space
  | none => names.Unbound p.space

variable {p q : Estate α} {names : Names}

theorem current?_eq_some {o : Owner} (current : p.current? names = some o) :
    ∃ seat, lastSeat? p.owners names = some seat ∧ p.present? seat = some o ∧
      o.endpoint.names = names := by
  obtain ⟨seat, last, present⟩ := Option.bind_eq_some_iff.mp current
  obtain ⟨_, seated, named⟩ := lastSeat?_eq_some last
  obtain rfl := Option.some.inj (seated.symm.trans (mem_of_present? present))
  exact ⟨seat, last, present, named⟩

theorem Holds.bound {o : Owner} (holds : p.Holds names) (current : p.current? names = some o) :
    o.endpoint.Bound p.space := by
  unfold Holds at holds
  rw [current] at holds
  exact holds

theorem Holds.unbound (holds : p.Holds names) (nobody : p.current? names = none) :
    names.Unbound p.space := by
  unfold Holds at holds
  rw [nobody] at holds
  exact holds

theorem Holds.elsewhere (holds : p.Holds names) (same : q.current? names = p.current? names)
    (agree : p.space.Agree q.space names) : q.Holds names := by
  unfold Holds
  rw [same]
  cases current : p.current? names with
  | none => exact agree.unbound (holds.unbound current)
  | some o =>
    obtain ⟨-, -, -, named⟩ := current?_eq_some current
    exact (Space.Agree.bound_iff (by rw [named]; exact agree)).mpr (holds.bound current)

/-- Every channel is one of those given, every seat that was let go of was taken
before, and all names are bound as their current owners have it. -/
structure Orderly (p : Estate α) (channels : List Names) : Prop where
  sound : p.Sound
  among : ∀ o ∈ p.owners, o.endpoint.names ∈ channels
  seated : ∀ seat ∈ p.gone, seat < p.owners.length
  holds : ∀ names ∈ channels, p.Holds names

variable {channels : List Names}

theorem Orderly.fresh {s : Space α} (unbound : ∀ names ∈ channels, names.Unbound s) :
    Orderly ⟨s, [], []⟩ channels := by
  constructor
  case sound => exact Sound.fresh s
  case among => exact fun _ member => absurd member List.not_mem_nil
  case seated => exact fun _ member => absurd member List.not_mem_nil
  case holds => exact unbound

theorem Orderly.onward (orderly : p.Orderly channels) {s : Space α}
    (agree : ∀ names, p.space.Agree s names)
    (sizes : ∀ id < p.space.regions.size,
      (s.regions[id]?).map (·.size) = (p.space.regions[id]?).map (·.size)) :
    Orderly { p with space := s } channels := by
  constructor
  case sound =>
    refine ⟨fun o member => ?_, orderly.sound.apart⟩
    have legit := orderly.sound.legit o member
    exact ⟨legit.made, (sizes _ legit.exists).trans legit.region⟩
  case among => exact orderly.among
  case seated => exact orderly.seated
  case holds =>
    intro names member
    exact (orderly.holds names member).elsewhere rfl (agree names)

theorem Orderly.current?_append (orderly : p.Orderly channels) (s : Space α) (o : Owner) (names : Names) :
    Estate.current? ⟨s, p.owners ++ [o], p.gone⟩ names =
      if o.endpoint.names = names then some o else p.current? names := by
  unfold Estate.current?
  rw [lastSeat?_append]
  split
  next =>
    have fresh : p.owners.length ∉ p.gone :=
      fun member => Nat.lt_irrefl _ (orderly.seated _ member)
    simp [present?, fresh]
  next =>
    cases last : lastSeat? p.owners names with
    | none => rfl
    | some seat =>
      obtain ⟨other, seated, -⟩ := lastSeat?_eq_some last
      obtain ⟨old, -⟩ := List.getElem?_eq_some_iff.mp seated
      simp [present?, List.getElem?_append_left old]

/-- An owner that lets go is nobody's current owner any more; others' are what they were. -/
theorem current?_gone (s : Space α) (seat : Nat) (names : Names) :
    current? ⟨s, p.owners, seat :: p.gone⟩ names =
      if lastSeat? p.owners names = some seat then none else p.current? names := by
  unfold current?
  cases last : lastSeat? p.owners names with
  | none => rfl
  | some other =>
    by_cases same : other = seat
    · simp [present?, same]
    · simp [present?, same]

theorem Sound.distinct (sound : p.Sound) {seat other : Nat} {o f : Owner}
    (seated : p.owners[seat]? = some o) (seatedToo : p.owners[other]? = some f)
    (differ : other ≠ seat) : f.endpoint.region.id ≠ o.endpoint.region.id := by
  intro same
  obtain ⟨bound, -⟩ := List.getElem?_eq_some_iff.mp seatedToo
  apply differ
  apply (List.getElem?_inj (by simpa using bound) sound.apart).mp
  simp only [List.getElem?_map, seatedToo, seated, Option.map_some, same]

/-- An owner whose names somebody else created a channel under since then, or
took down, changes no name by letting go. -/
theorem Orderly.close_superseded (orderly : p.Orderly channels) {seat : Nat} {o : Owner}
    (present : p.present? seat = some o)
    (superseded : lastSeat? p.owners o.endpoint.names ≠ some seat) :
    (o.endpoint.closed p.space).regionNames = p.space.regionNames ∧
      (o.endpoint.closed p.space).semaphoreNames = p.space.semaphoreNames := by
  have seated := mem_of_present? present
  have member := List.mem_of_getElem? seated
  obtain ⟨owned, named⟩ := (orderly.sound.legit o member).owned
  have holds := orderly.holds _ (orderly.among o member)
  cases current : p.current? o.endpoint.names with
  | some f =>
    obtain ⟨other, last, presentToo, same⟩ := current?_eq_some current
    have differ : other ≠ seat := fun same => superseded (same ▸ last)
    have distinct := orderly.sound.distinct seated (mem_of_present? presentToo) differ
    have bound := (holds.bound current).1
    have reclaimed : o.endpoint.region.reclaimed p.space = true := by
      simp [RegionHandle.reclaimed, owned, named, ← same, bound, distinct]
    simp [Endpoint.closed, reclaimed]
  | none =>
    obtain ⟨region, robot, simulator⟩ := holds.unbound current
    have kept : o.endpoint.region.reclaimed p.space = false := by
      simp [RegionHandle.reclaimed, named, region]
    constructor
    · rw [Endpoint.regionNames_closed _ owned named]
      simp [Bindings.without, region]
    · rw [Endpoint.semaphoreNames_closed, kept]
      funext name
      simp only [Bool.false_eq_true, if_false, Bindings.unbind]
      grind

/-- The current owner's names all come free when it lets go, and no others do. -/
theorem Orderly.close_current (orderly : p.Orderly channels) {seat : Nat} {o : Owner}
    (present : p.present? seat = some o)
    (last : lastSeat? p.owners o.endpoint.names = some seat) :
    o.endpoint.names.Unbound (o.endpoint.closed p.space) ∧
      ∀ names, o.endpoint.names.Disjoint names →
        p.space.Agree (o.endpoint.closed p.space) names := by
  have member := List.mem_of_getElem? (mem_of_present? present)
  obtain ⟨owned, named⟩ := (orderly.sound.legit o member).owned
  have current : p.current? o.endpoint.names = some o := by simp [current?, last, present]
  obtain ⟨region, -, -⟩ := (orderly.holds _ (orderly.among o member)).bound current
  have kept : o.endpoint.region.reclaimed p.space = false := by
    simp [RegionHandle.reclaimed, named, region]
  have regions := Endpoint.regionNames_closed (s := p.space) o.endpoint owned named
  have semaphores := Endpoint.semaphoreNames_closed (s := p.space) o.endpoint
  rw [kept] at semaphores
  constructor
  · constructor
    · rw [regions, Bindings.without_self, if_pos region]
    · simp [semaphores, Bindings.unbind]
    · simp [semaphores]
  · intro names disjoint
    have apart := disjoint.apart
    simp only [Names.Apart, List.mem_cons, List.not_mem_nil, or_false, forall_eq_or_imp,
      forall_eq] at apart
    obtain ⟨⟨robotRobot, robotSimulator⟩, simulatorRobot, simulatorSimulator⟩ := apart
    constructor
    · rw [regions, Bindings.without_other _ _ disjoint.region.symm]
    · simp [semaphores, Bindings.unbind, robotRobot.symm, simulatorRobot.symm]
    · simp [semaphores, Bindings.unbind, robotSimulator.symm, simulatorSimulator.symm]

theorem Orderly.close (orderly : p.Orderly channels) [Inhabited α]
    (separate : Names.Separate channels) (seat : Nat) : (p.step (.close seat)).Orderly channels := by
  cases present : p.present? seat with
  | none => simpa only [step, present] using orderly
  | some o =>
    have seated := mem_of_present? present
    have sound := orderly.sound.close seat
    have space := orderly.sound.space_close present
    simp only [step, present] at sound space ⊢
    rw [space] at sound ⊢
    constructor
    case sound => exact sound
    case among => exact orderly.among
    case seated =>
      intro other member
      obtain rfl | member := List.mem_cons.mp member
      · exact (List.getElem?_eq_some_iff.mp seated).1
      · exact orderly.seated other member
    case holds =>
      intro names member
      have holds := orderly.holds names member
      have own := orderly.among o (List.mem_of_getElem? seated)
      by_cases last : lastSeat? p.owners o.endpoint.names = some seat
      · obtain ⟨unbound, agree⟩ := orderly.close_current present last
        obtain rfl | disjoint := separate.disjoint _ own names member
        · unfold Holds
          rw [current?_gone, if_pos last]
          exact unbound
        · apply holds.elsewhere _ (agree names disjoint)
          rw [current?_gone, if_neg]
          intro same
          obtain ⟨f, there, named⟩ := lastSeat?_eq_some same
          obtain rfl := Option.some.inj (seated.symm.trans there)
          exact disjoint.region (by rw [named])
      · obtain ⟨regions, semaphores⟩ := orderly.close_superseded present last
        apply holds.elsewhere _ (.of_eq regions semaphores names)
        rw [current?_gone, if_neg]
        intro same
        obtain ⟨f, there, named⟩ := lastSeat?_eq_some same
        obtain rfl := Option.some.inj (seated.symm.trans there)
        exact last (named ▸ same)

theorem Orderly.attach (orderly : p.Orderly channels) (separate : Names.Separate channels)
    (member : names ∈ channels) (valueSize : Nat) :
    match p.current? names with
    | none => (Endpoint.attach names valueSize).run (⟨p.space, (), #[]⟩ : World α Unit) =
        (.error (.regionNotFound names.region), ⟨p.space, (), #[]⟩)
    | some o =>
      if valueSize / regionAlignment = o.valueSize / regionAlignment then ∃ e journal,
        (Endpoint.attach names valueSize).run (⟨p.space, (), #[]⟩ : World α Unit) =
          (.ok e, ⟨p.space, (), journal⟩) ∧ e.role = .robot ∧ e.objects = o.endpoint.objects
      else (Endpoint.attach names valueSize).run (⟨p.space, (), #[]⟩ : World α Unit) =
        (.error (.sizeMismatch names.region (regionSizeFor valueSize) (regionSizeFor o.valueSize)),
          ⟨p.space, (), #[]⟩) := by
  have valid := separate.valid member
  have holds := orderly.holds names member
  cases current : p.current? names with
  | none => exact attach_missing valid valueSize (holds.unbound current).region
  | some o =>
    obtain ⟨seat, -, present, named⟩ := current?_eq_some current
    obtain ⟨region, robot, simulator⟩ := holds.bound current
    rw [named] at region robot simulator
    have sized := (orderly.sound.legit o (List.mem_of_getElem? (mem_of_present? present))).region
    dsimp only
    split
    next fits =>
      rw [← (regionSizeFor_eq_iff valueSize o.valueSize).mpr fits] at sized
      obtain ⟨journal, ran⟩ := attach_found (w := (⟨p.space, (), #[]⟩ : World α Unit)) valid region
        sized robot simulator
      exact ⟨_, journal, ran, rfl, rfl⟩
    next misfit =>
      apply attach_misfit valid region sized
      exact fun same => misfit ((regionSizeFor_eq_iff valueSize o.valueSize).mp same.symm)

variable [Inhabited α]

theorem Orderly.create_cases (orderly : p.Orderly channels) (separate : Names.Separate channels)
    (member : names ∈ channels) (valueSize : Nat) (exclusive : Bool) :
    ((exclusive = false ∨ names.Unbound p.space) ∧ ∃ journal,
      (Endpoint.create names valueSize exclusive).run (⟨p.space, (), #[]⟩ : World α Unit) =
        (.ok (.created p.space names valueSize),
          ⟨p.space.withChannel names valueSize, (), journal⟩)) ∨
    (exclusive = true ∧ ¬ names.Unbound p.space ∧
      (Endpoint.create names valueSize exclusive).run (⟨p.space, (), #[]⟩ : World α Unit) =
        (.error (.regionExists names.region), ⟨p.space, (), #[]⟩)) := by
  have valid := separate.valid member
  have holds := orderly.holds names member
  cases exclusive with
  | false =>
    exact .inl ⟨.inl rfl, create_forced valid.region valid.robot valid.simulator valueSize _⟩
  | true =>
    cases current : p.current? names with
    | none =>
      have unbound := holds.unbound current
      exact .inl ⟨.inr unbound, create_unbound valid valueSize unbound⟩
    | some o =>
      obtain ⟨-, -, -, named⟩ := current?_eq_some current
      have region := (holds.bound current).1
      rw [named] at region
      refine .inr ⟨rfl, fun unbound => ?_, create_bound valid valueSize region⟩
      rw [unbound.region] at region
      cases region

theorem Orderly.create (orderly : p.Orderly channels) (separate : Names.Separate channels)
    (member : names ∈ channels) (valueSize : Nat) (exclusive : Bool) :
    (p.step (.create names valueSize exclusive)).Orderly channels := by
  have accepted := separate.accepted names member
  have sound := orderly.sound.create accepted valueSize exclusive
  obtain ⟨-, journal, ran⟩ | ⟨-, -, ran⟩ :=
    orderly.create_cases separate member valueSize exclusive
  · simp only [step, ran] at sound ⊢
    constructor
    case sound => exact sound
    case among =>
      intro o joined
      obtain old | new := List.mem_append.mp joined
      · exact orderly.among o old
      · obtain rfl := List.mem_singleton.mp new
        exact member
    case seated =>
      intro seat gone
      rw [List.length_append]
      exact Nat.lt_add_right 1 (orderly.seated seat gone)
    case holds =>
      intro other there
      obtain rfl | disjoint := separate.disjoint names member other there
      · unfold Holds
        rw [orderly.current?_append, if_pos (show (Endpoint.created p.space names _).names = names from rfl)]
        exact (Endpoint.created_new (separate.valid member) p.space valueSize).bound
      · apply (orderly.holds other there).elsewhere _ (Space.withChannel_agree disjoint valueSize)
        rw [orderly.current?_append, if_neg]
        rintro rfl
        exact disjoint.region rfl
  · simpa only [step, ran] using orderly

theorem Orderly.step (orderly : p.Orderly channels) (separate : Names.Separate channels) {d : Deed}
    (among : ∀ names valueSize exclusive, d = .create names valueSize exclusive → names ∈ channels) :
    (p.step d).Orderly channels := by
  cases d with
  | create names valueSize exclusive =>
    exact orderly.create separate (among _ _ _ rfl) valueSize exclusive
  | close seat => exact orderly.close separate seat

end Estate

end Lockstep.Channel
