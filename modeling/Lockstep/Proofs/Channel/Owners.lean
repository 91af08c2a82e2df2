import Lockstep.Proofs.Channel.Party

/-! Several creators, whose names may be the same, different, or shared in part.

Each creates its channel or lets go of it in one go, in any order. Whether a name
is still its creator's own is asked of the region alone, so what becomes of a
semaphore's name hangs on the region that was created along with it.
-/

set_option autoImplicit false

namespace Lockstep.Channel

open Effect

variable {α σ : Type}

namespace Bindings

theorem unbind_bind {names : Bindings} {name : String} (free : names name = none) (id : Nat) :
    (names.bind name id).unbind name = names := by
  funext other
  by_cases same : other = name
  · simp [unbind, same, free]
  · simp [bind, unbind, same]

def without (names : Bindings) (name : String) (id : Nat) : Bindings :=
  if names name = some id then names.unbind name else names

theorem without_self (names : Bindings) (name : String) (id : Nat) :
    names.without name id name = if names name = some id then none else names name := by
  unfold without
  split
  · exact unbind_self _ _
  · rfl

theorem without_other (names : Bindings) {name other : String} (id : Nat)
    (differs : other ≠ name) : names.without name id other = names other := by
  unfold without
  split
  · exact unbind_other _ differs
  · rfl

end Bindings

namespace Space

/-- Objects may have come into being, but no name was bound or unbound. -/
structure Grown (s t : Space α) : Prop where
  regionNames : t.regionNames = s.regionNames
  semaphoreNames : t.semaphoreNames = s.semaphoreNames
  regions : ∀ id < s.regions.size, t.regions[id]? = s.regions[id]?

theorem Grown.refl (s : Space α) : s.Grown s := ⟨rfl, rfl, fun _ _ => rfl⟩

theorem regions_addRegion (s : Space α) (name : String) (r : Region α) {id : Nat}
    (old : id < s.regions.size) : (s.addRegion name r).2.regions[id]? = s.regions[id]? := by
  simp [addRegion, Array.getElem?_push, Nat.ne_of_lt old]

end Space

theorem createExclusive_error {names : Names} {w w' : World α σ} {cause : Error}
    (failed : (TurnSemaphores.createExclusive names).run w = (.error cause, w')) :
    w.space.Grown w'.space := by
  rw [run_createExclusive] at failed
  obtain ⟨valid, free, first, ran⟩ | ⟨-, e, ran⟩ :=
    createSemaphore_cases names.robotSemaphore false w
  case inr =>
    rw [ran] at failed
    cases failed
    exact .refl _
  have free := free.resolve_left (by simp)
  rw [ran] at failed
  dsimp only at failed
  obtain ⟨-, -, second, ran⟩ | ⟨-, e, ran⟩ := createSemaphore_cases names.simulatorSemaphore false
    (⟨(w.space.addSemaphore names.robotSemaphore).2, w.peer, first⟩ : World α σ)
  · rw [ran] at failed
    cases failed
  · rw [ran] at failed
    dsimp only at failed
    rw [run_unlinkSemaphore_valid valid] at failed
    cases failed
    exact ⟨rfl, Bindings.unbind_bind free _, fun _ _ => rfl⟩

/-- A channel that cannot be created for lack of free names leaves no name behind. -/
theorem create_exclusive_error [Inhabited α] {names : Names} {valueSize : Nat} {w w' : World α σ}
    {cause : Error}
    (failed : (Endpoint.create names valueSize true).run w = (.error cause, w')) :
    w.space.Grown w'.space := by
  rw [run_create] at failed
  obtain ⟨-, free, first, ran⟩ | ⟨-, e, _, ran⟩ := createRegion_cases names.region valueSize false w
  case inr =>
    rw [Bool.not_true, ran] at failed
    cases failed
    exact .refl _
  have free := free.resolve_left (by simp)
  rw [Bool.not_true, ran] at failed
  dsimp only at failed
  split at failed
  next => cases failed
  next cause between turns =>
    have grown : ((w.space.addRegion names.region ⟨regionSizeFor valueSize, default⟩).2).Grown
        between.space := createExclusive_error turns
    obtain ⟨unlinked, journal, ran⟩ := run_destroy
      (⟨names.region, w.space.regions.size, regionSizeFor valueSize, true⟩ : RegionHandle) between
    rw [ran] at failed
    cases failed
    -- The name is the fresh region's still, so it comes free again.
    have bound : between.space.regionNames names.region = some w.space.regions.size := by
      rw [grown.regionNames]
      exact Bindings.bind_self _ _ _
    simp only [RegionHandle.released, bound, and_self, if_true]
    refine ⟨?_, grown.semaphoreNames, fun id old => ?_⟩
    · simp only [Space.unbindRegion, grown.regionNames]
      exact Bindings.unbind_bind free _
    · refine (grown.regions id ?_).trans (w.space.regions_addRegion _ _ old)
      simp [Space.addRegion]
      omega

structure Owner where
  endpoint : Endpoint
  valueSize : Nat

inductive Deed where
  | create (names : Names) (valueSize : Nat) (exclusive : Bool)
  | close (seat : Nat)

def Deed.Valid : Deed → Prop
  | create names _ _ => names.fault? = none
  | close _ => True

/-- All owners in the order in which they came, and those that have let go. -/
structure Estate (α : Type) where
  space : Space α
  owners : List Owner
  gone : List Nat

namespace Estate

def present? (p : Estate α) (seat : Nat) : Option Owner :=
  if seat ∈ p.gone then none else p.owners[seat]?

/-- One deed. Letting go a second time does nothing. -/
def step [Inhabited α] (p : Estate α) : Deed → Estate α
  | .create names valueSize exclusive =>
    match (Endpoint.create names valueSize exclusive).run (⟨p.space, (), #[]⟩ : World α Unit) with
    | (.ok e, w) => { p with space := w.space, owners := p.owners ++ [⟨e, valueSize⟩] }
    | (.error _, w) => { p with space := w.space }
  | .close seat => match p.present? seat with
    | some o =>
      let w := (o.endpoint.close.run (⟨p.space, (), #[]⟩ : World α Unit)).2
      { p with space := w.space, gone := seat :: p.gone }
    | none => p

def run [Inhabited α] (p : Estate α) (deeds : List Deed) : Estate α := deeds.foldl step p

end Estate

/-- What is true of an owner from the creation of its channel on. -/
structure Owner.Legit (o : Owner) (s : Space α) : Prop where
  made : ∃ (before : Space α) (names : Names), names.Valid ∧
    o.endpoint = .created before names o.valueSize
  region : (s.regions[o.endpoint.region.id]?).map (·.size) = some (regionSizeFor o.valueSize)

/-- An owner's three names are bound to the three objects that it created. -/
def Endpoint.Bound (e : Endpoint) (s : Space α) : Prop :=
  s.regionNames e.names.region = some e.region.id ∧
    s.semaphoreNames e.names.robotSemaphore = some e.turns.robot.id ∧
    s.semaphoreNames e.names.simulatorSemaphore = some e.turns.simulator.id

/-- Whoever attaches under an owner's names gets the objects of that owner. -/
def Owner.Attachable (o : Owner) (s : Space α) : Prop :=
  ∃ e w, (Endpoint.attach o.endpoint.names o.valueSize).run (⟨s, (), #[]⟩ : World α Unit) =
    (.ok e, w) ∧ e.objects = o.endpoint.objects

/-- Taking down a channel is right if just those of its names come free that are
bound to the objects that its owner created. -/
structure Endpoint.TakesOwn (e : Endpoint) (s t : Space α) : Prop where
  region : t.regionNames = s.regionNames.without e.names.region e.region.id
  semaphores : t.semaphoreNames =
    (s.semaphoreNames.without e.names.robotSemaphore e.turns.robot.id).without
      e.names.simulatorSemaphore e.turns.simulator.id

/-- The semaphores' names go the way of the region's. Where somebody else has
that one, neither is the owner's still; elsewhere neither is anybody else's. -/
def Endpoint.Together (e : Endpoint) (s : Space α) : Prop :=
  ∀ h ∈ [e.turns.robot, e.turns.simulator],
    if e.region.reclaimed s then s.semaphoreNames h.name ≠ some h.id
    else ∀ id, s.semaphoreNames h.name = some id → id = h.id

/-- Two channels that have no semaphore's name in common. -/
def Names.Apart (names other : Names) : Prop :=
  ∀ name ∈ [names.robotSemaphore, names.simulatorSemaphore],
    name ≠ other.robotSemaphore ∧ name ≠ other.simulatorSemaphore

theorem Bindings.unbind_unbind_eq_iff {names : Bindings} {first second : String}
    (differ : first ≠ second) (id other : Nat) :
    (names.unbind first).unbind second = (names.without first id).without second other ↔
      (∀ n, names first = some n → n = id) ∧ (∀ n, names second = some n → n = other) := by
  constructor
  · intro same
    have atFirst := congrFun same first
    have atSecond := congrFun same second
    rw [unbind_other _ differ, unbind_self, without_other _ _ differ, without_self] at atFirst
    rw [unbind_self, without_self, without_other _ _ differ.symm] at atSecond
    constructor
    · intro n bound
      simpa [bound] using atFirst
    · intro n bound
      simpa [bound] using atSecond
  · rintro ⟨ownFirst, ownSecond⟩
    funext name
    by_cases isSecond : name = second
    · subst isSecond
      rw [unbind_self, without_self, without_other _ _ differ.symm]
      cases bound : names name with
      | none => simp
      | some n => simp [ownSecond n bound]
    · rw [unbind_other _ isSecond, without_other _ _ isSecond]
      by_cases isFirst : name = first
      · subst isFirst
        rw [unbind_self, without_self]
        cases bound : names name with
        | none => simp
        | some n => simp [ownFirst n bound]
      · rw [unbind_other _ isFirst, without_other _ _ isFirst]

theorem Bindings.eq_without_without_iff {names : Bindings} {first second : String}
    (differ : first ≠ second) (id other : Nat) :
    names = (names.without first id).without second other ↔
      names first ≠ some id ∧ names second ≠ some other := by
  constructor
  · intro same
    have atFirst := congrFun same first
    have atSecond := congrFun same second
    rw [without_other _ _ differ, without_self] at atFirst
    rw [without_self, without_other _ _ differ.symm] at atSecond
    constructor
    · intro bound
      simp [bound] at atFirst
    · intro bound
      simp [bound] at atSecond
  · rintro ⟨first, second⟩
    simp [without, first, second]

namespace Endpoint

variable {s before : Space α} {names : Names} {valueSize : Nat}

theorem regionNames_closed (e : Endpoint) (owned : e.region.owned = true)
    (named : e.region.name = e.names.region) :
    (e.closed s).regionNames = s.regionNames.without e.names.region e.region.id := by
  unfold closed RegionHandle.reclaimed RegionHandle.released Bindings.without
  rw [owned, named]
  cases bound : s.regionNames e.names.region with
  | none => simp [Space.unbindSemaphore]
  | some current =>
    by_cases same : current = e.region.id <;>
      simp [same, Space.unbindSemaphore, Space.unbindRegion]

theorem semaphoreNames_closed (e : Endpoint) :
    (e.closed s).semaphoreNames = if e.region.reclaimed s then s.semaphoreNames
      else (s.semaphoreNames.unbind e.names.robotSemaphore).unbind e.names.simulatorSemaphore := by
  unfold closed RegionHandle.released
  split
  · rfl
  · split <;> rfl

/-- An owner takes what is its own just if its names have stayed together. -/
theorem closed_takesOwn_iff {e : Endpoint} (valid : names.Valid)
    (made : e = .created before names valueSize) : e.TakesOwn s (e.closed s) ↔ e.Together s := by
  have region := regionNames_closed (s := s) e (by rw [made]; rfl) (by rw [made]; rfl)
  have robotNamed : e.names.robotSemaphore = e.turns.robot.name := by rw [made]; rfl
  have simulatorNamed : e.names.simulatorSemaphore = e.turns.simulator.name := by rw [made]; rfl
  have differ : e.turns.robot.name ≠ e.turns.simulator.name := by
    rw [made]
    exact valid.differ
  have right : e.TakesOwn s (e.closed s) ↔ (e.closed s).semaphoreNames =
      (s.semaphoreNames.without e.names.robotSemaphore e.turns.robot.id).without
        e.names.simulatorSemaphore e.turns.simulator.id :=
    ⟨fun takes => takes.semaphores, fun semaphores => ⟨region, semaphores⟩⟩
  rw [right, semaphoreNames_closed, robotNamed, simulatorNamed]
  unfold Together
  cases e.region.reclaimed s with
  | true => simpa using Bindings.eq_without_without_iff differ _ _
  | false => simpa using Bindings.unbind_unbind_eq_iff differ _ _

/-- Another owner's channel outlasts the taking down just if it was spared or
has no semaphore's name in common with the one that goes. -/
theorem bound_closed_iff {e f : Endpoint} (owned : e.region.owned = true)
    (named : e.region.name = e.names.region) (bound : f.Bound s)
    (differ : f.region.id ≠ e.region.id) :
    f.Bound (e.closed s) ↔ e.region.reclaimed s = true ∨ e.names.Apart f.names := by
  obtain ⟨region, robot, simulator⟩ := bound
  have kept : (e.closed s).regionNames f.names.region = some f.region.id := by
    rw [regionNames_closed e owned named]
    by_cases same : f.names.region = e.names.region
    · rw [same] at region ⊢
      simp [Bindings.without_self, region, differ]
    · rw [Bindings.without_other _ _ same, region]
  have regions : f.Bound (e.closed s) ↔
      (e.closed s).semaphoreNames f.names.robotSemaphore = some f.turns.robot.id ∧
      (e.closed s).semaphoreNames f.names.simulatorSemaphore = some f.turns.simulator.id :=
    ⟨fun bound => bound.2, fun semaphores => ⟨kept, semaphores⟩⟩
  rw [regions, semaphoreNames_closed]
  cases e.region.reclaimed s with
  | true => simp [robot, simulator]
  | false =>
    simp only [Bool.false_eq_true, if_false, false_or, Names.Apart, List.mem_cons,
      List.not_mem_nil, or_false, forall_eq_or_imp, forall_eq, Bindings.unbind]
    constructor
    · rintro ⟨first, second⟩
      grind
    · rintro ⟨⟨a, b⟩, c, d⟩
      simp [a.symm, b.symm, c.symm, d.symm, robot, simulator]

end Endpoint

namespace Owner

variable {o : Owner} {s t : Space α}

theorem Legit.exists (legit : o.Legit s) : o.endpoint.region.id < s.regions.size := by
  refine Nat.lt_of_not_le fun beyond => ?_
  have region := legit.region
  rw [Array.getElem?_eq_none beyond] at region
  cases region

theorem Legit.later (legit : o.Legit s)
    (kept : ∀ id < s.regions.size, t.regions[id]? = s.regions[id]?) : o.Legit t :=
  ⟨legit.made, by rw [kept _ legit.exists]; exact legit.region⟩

theorem Legit.owned (legit : o.Legit s) :
    o.endpoint.region.owned = true ∧ o.endpoint.region.name = o.endpoint.names.region := by
  obtain ⟨before, names, -, made⟩ := legit.made
  rw [made]
  exact ⟨rfl, rfl⟩

theorem Legit.attachable_iff (legit : o.Legit s) : o.Attachable s ↔ o.endpoint.Bound s := by
  obtain ⟨before, names, valid, made⟩ := legit.made
  have region := legit.region
  unfold Attachable Endpoint.Bound
  rw [made] at region ⊢
  constructor
  · rintro ⟨e, w, ran, same⟩
    obtain ⟨regionId, robotId, simulatorId, foundRegion, foundRobot, foundSimulator, journal, attached⟩ |
      ⟨cause, journal, refused⟩ := attach_cases names o.valueSize (⟨s, (), #[]⟩ : World α Unit)
    · rw [show (Endpoint.created before names o.valueSize).names = names from rfl, attached] at ran
      cases ran
      obtain ⟨rfl, rfl, rfl⟩ : regionId = before.regions.size ∧ robotId = before.counts.size ∧
          simulatorId = before.counts.size + 1 := by
        simpa [Endpoint.objects, Endpoint.attached, Endpoint.created, TurnSemaphores.created]
          using same
      exact ⟨foundRegion, foundRobot, foundSimulator⟩
    · rw [show (Endpoint.created before names o.valueSize).names = names from rfl, refused] at ran
      cases ran
  · rintro ⟨foundRegion, foundRobot, foundSimulator⟩
    obtain ⟨journal, ran⟩ := attach_found (w := (⟨s, (), #[]⟩ : World α Unit)) valid foundRegion
      region foundRobot foundSimulator
    exact ⟨_, _, ran, rfl⟩

end Owner

namespace Estate

variable {p : Estate α}

/-- What holds whatever the owners have done: each was once given fresh objects. -/
structure Sound (p : Estate α) : Prop where
  legit : ∀ o ∈ p.owners, o.Legit p.space
  apart : (p.owners.map (·.endpoint.region.id)).Nodup

theorem Sound.fresh (s : Space α) : Sound ⟨s, [], []⟩ :=
  ⟨fun _ member => absurd member List.not_mem_nil, List.nodup_nil⟩

theorem Sound.grow (sound : p.Sound) {s : Space α} (gone : List Nat)
    (kept : ∀ id < p.space.regions.size, s.regions[id]? = p.space.regions[id]?) :
    Sound ⟨s, p.owners, gone⟩ :=
  ⟨fun o member => (sound.legit o member).later kept, sound.apart⟩

theorem mem_of_present? {seat : Nat} {o : Owner} (present : p.present? seat = some o) :
    p.owners[seat]? = some o := by
  unfold present? at present
  split at present
  · cases present
  · exact present

variable [Inhabited α]

theorem Sound.create (sound : p.Sound) {names : Names} (accepted : names.fault? = none)
    (valueSize : Nat) (exclusive : Bool) : (p.step (.create names valueSize exclusive)).Sound := by
  simp only [step]
  rcases ran : (Endpoint.create names valueSize exclusive).run (⟨p.space, (), #[]⟩ : World α Unit)
    with ⟨cause | e, w⟩
  · cases exclusive with
    | true => exact sound.grow p.gone (create_exclusive_error ran).regions
    | false =>
      by_cases free : names.region ∈ directoryNames
      · obtain ⟨journal, refused⟩ := create_directory (Names.fault?_eq_none_iff.mp accepted).1 free valueSize
          false (⟨p.space, (), #[]⟩ : World α Unit)
        cases refused.symm.trans ran
        exact sound.grow p.gone fun _ _ => rfl
      · have valid := Names.valid_of_fault accepted free
        obtain ⟨journal, made⟩ := create_forced valid.region valid.robot valid.simulator valueSize
          (⟨p.space, (), #[]⟩ : World α Unit)
        cases made.symm.trans ran
  · have valid := Names.valid_of_fault accepted (create_regionName ran).free
    obtain ⟨rfl, space, -⟩ := create_ok ran
    have kept : ∀ id < p.space.regions.size, w.space.regions[id]? = p.space.regions[id]? := by
      intro id old
      rw [space]
      exact p.space.regions_addRegion names.region ⟨regionSizeFor valueSize, default⟩ old
    constructor
    · intro o member
      obtain old | new := List.mem_append.mp member
      · exact (sound.legit o old).later kept
      · obtain rfl := List.mem_singleton.mp new
        refine ⟨⟨p.space, names, valid, rfl⟩, ?_⟩
        simp [space, Endpoint.created, Space.withChannel, Space.withSemaphores,
          Space.addSemaphore, Space.addRegion]
    · rw [List.map_append]
      refine List.nodup_append.mpr ⟨sound.apart, by simp, ?_⟩
      intro id old fresh new same
      obtain ⟨o, member, rfl⟩ := List.mem_map.mp old
      obtain rfl : fresh = p.space.regions.size := by simpa [Endpoint.created] using new
      exact Nat.ne_of_lt (sound.legit o member).exists same

theorem Sound.close (sound : p.Sound) (seat : Nat) : (p.step (.close seat)).Sound := by
  simp only [step]
  cases p.present? seat with
  | none => exact sound
  | some o =>
    have same := (o.endpoint.close_keeps (⟨p.space, (), #[]⟩ : World α Unit)).1
    exact sound.grow _ fun id _ => by rw [same.regions]

theorem Sound.step (sound : p.Sound) {d : Deed} (valid : d.Valid) : (p.step d).Sound := by
  cases d with
  | create names valueSize exclusive => exact sound.create valid valueSize exclusive
  | close seat => exact sound.close seat

theorem Sound.run (sound : p.Sound) {deeds : List Deed} (valid : ∀ d ∈ deeds, d.Valid) :
    (p.run deeds).Sound := by
  induction deeds generalizing p with
  | nil => exact sound
  | cons d rest ih =>
    exact ih (sound.step (valid d List.mem_cons_self)) fun d member =>
      valid d (List.mem_cons_of_mem _ member)

theorem Sound.space_close (sound : p.Sound) {seat : Nat} {o : Owner}
    (present : p.present? seat = some o) :
    (p.step (.close seat)).space = o.endpoint.closed p.space := by
  obtain ⟨before, names, valid, made⟩ :=
    (sound.legit o (List.mem_of_getElem? (mem_of_present? present))).made
  obtain ⟨journal, ran⟩ := Endpoint.run_close (e := o.endpoint) (by rw [made]; rfl)
    (by rw [made]; exact valid.robot) (by rw [made]; exact valid.simulator)
    (⟨p.space, (), #[]⟩ : World α Unit)
  simp only [Estate.step, present, ran]

/-- After any history, an owner that lets go takes down just what is its own if
and only if its names have stayed together; and any other channel that could be
attached to can be still if and only if the owner's region was taken over or the
two have no semaphore's name in common. -/
theorem close_takes_own_iff (s : Space α) {deeds : List Deed} (valid : ∀ d ∈ deeds, d.Valid)
    {seat : Nat} {o : Owner} (present : (run ⟨s, [], []⟩ deeds).present? seat = some o) :
    let before := run ⟨s, [], []⟩ deeds
    let after := before.step (.close seat)
    (o.endpoint.TakesOwn before.space after.space ↔ o.endpoint.Together before.space) ∧
    ∀ other f, other ≠ seat → before.present? other = some f → f.Attachable before.space →
      (f.Attachable after.space ↔ o.endpoint.region.reclaimed before.space = true ∨
        o.endpoint.names.Apart f.endpoint.names) := by
  intro before after
  have sound : before.Sound := (Sound.fresh s).run valid
  have later : after.Sound := sound.close seat
  have seated : before.owners[seat]? = some o := mem_of_present? present
  have legit := sound.legit o (List.mem_of_getElem? seated)
  rw [sound.space_close present]
  constructor
  · obtain ⟨made, names, accepted, created⟩ := legit.made
    exact Endpoint.closed_takesOwn_iff accepted created
  · intro other f differs there attachable
    have seatedToo := mem_of_present? there
    have legitToo := sound.legit f (List.mem_of_getElem? seatedToo)
    have legitAfter : f.Legit (o.endpoint.closed before.space) := by
      rw [← sound.space_close present]
      refine later.legit f (List.mem_of_getElem? (i := other) ?_)
      rw [← seatedToo]
      simp only [after, Estate.step, before, present]
    have distinct : f.endpoint.region.id ≠ o.endpoint.region.id := by
      intro same
      obtain ⟨bound, -⟩ := List.getElem?_eq_some_iff.mp seatedToo
      refine differs ((List.getElem?_inj (by simpa using bound) sound.apart).mp ?_)
      simp only [List.getElem?_map, seatedToo, seated, Option.map_some, same]
    rw [legitAfter.attachable_iff]
    rw [legitToo.attachable_iff] at attachable
    exact Endpoint.bound_closed_iff legit.owned.1 legit.owned.2 attachable distinct

end Estate

def pair (names : Names) : List Deed := [.create .standard 8 false, .create names 8 false]

theorem pair_valid {names : Names} (accepted : names.fault? = none) : ∀ d ∈ pair names, d.Valid := by
  intro d member
  obtain rfl | rfl : d = .create .standard 8 false ∨ d = .create names 8 false := by
    simpa [pair] using member
  · show Names.standard.fault? = none
    decide
  · exact accepted

def estate (names : Names) : Estate Nat := .run ⟨.empty, [], []⟩ (pair names)

def neighbour : Names := ⟨"/neighbour", "/robot-semaphore", "/neighbour-semaphore"⟩

/-- The second one loses a name of its own when the first lets go. -/
theorem close_takes_anothers : ∃ o f,
    (estate neighbour).present? 0 = some o ∧ (estate neighbour).present? 1 = some f ∧
    ¬ o.endpoint.TakesOwn (estate neighbour).space ((estate neighbour).step (.close 0)).space ∧
    f.Attachable (estate neighbour).space ∧
    ¬ f.Attachable ((estate neighbour).step (.close 0)).space := by
  have sound : (estate neighbour).Sound := (Estate.Sound.fresh _).run (pair_valid (by decide))
  refine ⟨_, _, rfl, rfl, ?_, ?_, ?_⟩
  · intro takes
    have taken := congrFun takes.semaphores "/robot-semaphore"
    revert taken
    decide +kernel
  · rw [(sound.legit _ (List.mem_of_getElem? (i := 1) rfl)).attachable_iff]
    exact ⟨rfl, rfl, rfl⟩
  · rw [((sound.close 0).legit _ (List.mem_of_getElem? (i := 1) rfl)).attachable_iff]
    rintro ⟨-, robot, -⟩
    revert robot
    decide +kernel

/-- Where all names were taken over, nothing is taken from the second one. -/
theorem successor_unharmed : ∃ o f,
    (estate .standard).present? 0 = some o ∧ (estate .standard).present? 1 = some f ∧
    o.endpoint.TakesOwn (estate .standard).space ((estate .standard).step (.close 0)).space ∧
    f.Attachable ((estate .standard).step (.close 0)).space := by
  have valid : ∀ d ∈ pair .standard, d.Valid := pair_valid (by decide)
  have sound : (estate .standard).Sound := (Estate.Sound.fresh _).run valid
  have owned : (estate .standard).present? 0 = some ⟨.created .empty .standard 8, 8⟩ := rfl
  obtain ⟨takes, spares⟩ := Estate.close_takes_own_iff .empty valid owned
  refine ⟨_, _, owned, rfl, takes.mpr ?_, (spares 1 _ (by decide) rfl ?_).mpr (.inl rfl)⟩
  · intro h member
    rw [if_pos (by rfl)]
    obtain rfl | rfl := by simpa using member
    · decide +kernel
    · decide +kernel
  · exact (sound.legit _ (List.mem_of_getElem? (i := 1) rfl)).attachable_iff.mpr ⟨rfl, rfl, rfl⟩

end Lockstep.Channel
