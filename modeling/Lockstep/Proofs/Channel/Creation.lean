import Lockstep.Channel.Handle
import Lockstep.Proofs.Channel.Objects
import Lockstep.Proofs.Effect

/-! Creating and opening the objects of a channel, as changes of the name space.

Every operation either fails and leaves the name space alone or does the one
thing that is stated here. What it writes into the journal is left open.
-/

set_option autoImplicit false

namespace Lockstep.Channel

open Effect

variable {α σ ε β : Type}

namespace Act

@[simp] theorem run_ofExcept (r : Except ε β) (w : World α σ) :
    (ofExcept r : Act α σ ε β).run w = (r, w) := rfl

@[simp] theorem run_space (w : World α σ) :
    (space : Act α σ ε (Space α)).run w = (.ok w.space, w) := rfl

@[simp] theorem run_setSpace (s : Space α) (w : World α σ) :
    (setSpace s : Act α σ ε Unit).run w = (.ok (), w.setSpace s) := rfl

@[simp] theorem run_note (level : Level) (message : String) (fields : List (String × FieldValue))
    (w : World α σ) :
    (note level message fields : Act α σ ε Unit).run w = (.ok (), w.note ⟨level, message, fields⟩) :=
  rfl

@[simp] theorem run_onSpace (f : Space α → Except ε (β × Space α)) (w : World α σ) :
    (onSpace f).run w = match f w.space with
      | .ok (b, s) => (.ok b, w.setSpace s)
      | .error e => (.error e, w) := by
  simp only [onSpace, run_bind, run_space, run_ofExcept]
  rcases f w.space with _ | ⟨_, _⟩ <;> rfl

end Act

def ValidName (name : String) : Prop := nameFault? name = none

instance (name : String) : Decidable (ValidName name) := inferInstanceAs (Decidable (_ = _))

/-- A name that can stand for a region. -/
structure RegionName (name : String) : Prop where
  valid : ValidName name
  free : name ∉ directoryNames

theorem regionName_iff {name : String} :
    RegionName name ↔ ValidName name ∧ name ∉ directoryNames :=
  ⟨fun ⟨valid, free⟩ => ⟨valid, free⟩, fun ⟨valid, free⟩ => ⟨valid, free⟩⟩

instance (name : String) : Decidable (RegionName name) := decidable_of_iff _ regionName_iff.symm

/-- Names that can make a channel. -/
structure Names.Valid (names : Names) : Prop where
  region : RegionName names.region
  robot : ValidName names.robotSemaphore
  simulator : ValidName names.simulatorSemaphore
  differ : names.robotSemaphore ≠ names.simulatorSemaphore

theorem Names.fault?_eq_none_iff {names : Names} : names.fault? = none ↔
    ValidName names.region ∧ ValidName names.robotSemaphore ∧
      ValidName names.simulatorSemaphore ∧ names.robotSemaphore ≠ names.simulatorSemaphore := by
  simp [Names.fault?, ValidName]

theorem Names.valid_of_fault {names : Names} (accepted : names.fault? = none)
    (free : names.region ∉ directoryNames) : names.Valid := by
  obtain ⟨region, robot, simulator, differ⟩ := Names.fault?_eq_none_iff.mp accepted
  exact ⟨⟨region, free⟩, robot, simulator, differ⟩

theorem Names.valid_standard : Names.standard.Valid :=
  Names.valid_of_fault (by decide) (by decide)

theorem requireName_valid {name : String} (valid : ValidName name) : requireName name = .ok () := by
  unfold requireName
  rw [valid]

theorem requireName_invalid {name : String} (invalid : ¬ ValidName name) :
    ∃ fault, requireName name = .error (.invalidName name fault) := by
  unfold requireName
  cases found : nameFault? name with
  | none => exact absurd found invalid
  | some fault => exact ⟨fault, rfl⟩

/-- The system has a directory under the name, which makes way for no region. -/
theorem run_createRegion_directory [Inhabited α] {name : String} (valid : ValidName name)
    (directory : name ∈ directoryNames) (valueSize : Nat) (overwrite : Bool) (w : World α σ) :
    ∃ journal, (createRegion name valueSize overwrite).run w =
      (.error (if overwrite then .system .isDirectory else .regionExists name),
        { w with journal := journal }) := by
  cases overwrite <;>
    simp [createRegion, createObject, requireName_valid valid, directory, World.note] <;>
    exact ⟨_, rfl⟩

theorem createRegion_cases [Inhabited α] (name : String) (valueSize : Nat) (overwrite : Bool)
    (w : World α σ) :
    (RegionName name ∧ (overwrite = true ∨ w.space.regionNames name = none) ∧
      ∃ journal, (createRegion name valueSize overwrite).run w =
        (.ok ⟨name, w.space.regions.size, regionSizeFor valueSize, true⟩,
          ⟨(w.space.addRegion name ⟨regionSizeFor valueSize, default⟩).2, w.peer, journal⟩)) ∨
    ((¬ RegionName name ∨ overwrite = false ∧ w.space.regionNames name ≠ none) ∧
      ∃ e journal, (createRegion name valueSize overwrite).run w =
        (.error e, { w with journal := journal })) := by
  by_cases valid : ValidName name
  case neg =>
    obtain ⟨fault, refused⟩ := requireName_invalid valid
    refine .inr ⟨.inl fun named => valid named.valid, .invalidName name fault, w.journal, ?_⟩
    simp [createRegion, createObject, refused]
  by_cases directory : name ∈ directoryNames
  · exact .inr ⟨.inl fun named => named.free directory, _,
      run_createRegion_directory valid directory valueSize overwrite w⟩
  have named : RegionName name := ⟨valid, directory⟩
  have accepted := requireName_valid valid
  cases bound : w.space.regionNames name with
  | none =>
    refine .inl ⟨named, .inr rfl, ?_⟩
    simp [createRegion, createObject, accepted, directory, bound, World.note, World.setSpace,
      Space.addRegion]
    exact ⟨_, rfl⟩
  | some id =>
    cases overwrite with
    | true =>
      refine .inl ⟨named, .inl rfl, ?_⟩
      simp [createRegion, createObject, accepted, directory, bound, World.note, World.setSpace,
        Space.addRegion, Space.unbindRegion]
      exact ⟨_, rfl⟩
    | false =>
      refine .inr ⟨.inr ⟨rfl, by simp⟩, .regionExists name, w.journal, ?_⟩
      simp [createRegion, createObject, accepted, directory, bound]

theorem createSemaphore_cases (name : String) (overwrite : Bool) (w : World α σ) :
    (ValidName name ∧ (overwrite = true ∨ w.space.semaphoreNames name = none) ∧
      ∃ journal, (createSemaphore name overwrite).run w =
        (.ok ⟨name, w.space.counts.size⟩, ⟨(w.space.addSemaphore name).2, w.peer, journal⟩)) ∨
    ((¬ ValidName name ∨ overwrite = false ∧ w.space.semaphoreNames name ≠ none) ∧
      ∃ e, (createSemaphore name overwrite).run w = (.error e, w)) := by
  by_cases valid : ValidName name
  · have accepted := requireName_valid valid
    cases bound : w.space.semaphoreNames name with
    | none =>
      refine .inl ⟨valid, .inr rfl, ?_⟩
      simp [createSemaphore, accepted, bound, World.note, World.setSpace, Space.addSemaphore]
      exact ⟨_, rfl⟩
    | some id =>
      cases overwrite with
      | true =>
        refine .inl ⟨valid, .inl rfl, ?_⟩
        simp [createSemaphore, unlinkSemaphore, accepted, bound, World.note, World.setSpace,
          Space.addSemaphore, Space.unbindSemaphore]
        exact ⟨_, rfl⟩
      | false =>
        refine .inr ⟨.inr ⟨rfl, by simp⟩, .semaphoreExists name, ?_⟩
        simp [createSemaphore, accepted, bound]
  · obtain ⟨fault, refused⟩ := requireName_invalid valid
    refine .inr ⟨.inl valid, .invalidName name fault, ?_⟩
    simp [createSemaphore, refused]

theorem attachRegion_cases (name : String) (valueSize : Nat) (w : World α σ) :
    (∃ id, w.space.regionNames name = some id ∧ ∃ journal,
      (attachRegion name valueSize).run w =
        (.ok ⟨name, id, regionSizeFor valueSize, false⟩, { w with journal := journal })) ∨
    ∃ e, (attachRegion name valueSize).run w = (.error e, w) := by
  by_cases valid : ValidName name
  case neg =>
    obtain ⟨fault, refused⟩ := requireName_invalid valid
    exact .inr ⟨.invalidName name fault, by simp [attachRegion, openObject, refused]⟩
  have accepted := requireName_valid valid
  by_cases directory : name ∈ directoryNames
  · exact .inr ⟨.system .invalidArgument, by simp [attachRegion, openObject, accepted, directory]⟩
  cases bound : w.space.regionNames name with
  | none =>
    exact .inr ⟨.regionNotFound name, by simp [attachRegion, openObject, accepted, directory, bound]⟩
  | some id =>
    by_cases fits : (w.space.regions[id]?.map (·.size)).getD 0 = regionSizeFor valueSize
    · refine .inl ⟨id, rfl, ?_⟩
      simp [attachRegion, openObject, accepted, directory, bound, fits, World.note]
      exact ⟨_, rfl⟩
    · right
      simp [attachRegion, openObject, accepted, directory, bound, fits]
      exact ⟨_, rfl⟩

theorem openSemaphore_cases (name : String) (w : World α σ) :
    (∃ id, w.space.semaphoreNames name = some id ∧ ∃ journal,
      (openSemaphore name).run w = (.ok ⟨name, id⟩, { w with journal := journal })) ∨
    ∃ e, (openSemaphore name).run w = (.error e, w) := by
  by_cases valid : ValidName name
  · have accepted := requireName_valid valid
    cases bound : w.space.semaphoreNames name with
    | none => exact .inr ⟨.semaphoreNotFound name, by simp [openSemaphore, accepted, bound]⟩
    | some id =>
      refine .inl ⟨id, rfl, ?_⟩
      simp [openSemaphore, accepted, bound, World.note]
      exact ⟨_, rfl⟩
  · obtain ⟨fault, refused⟩ := requireName_invalid valid
    exact .inr ⟨.invalidName name fault, by simp [openSemaphore, refused]⟩

def Space.withSemaphores (s : Space α) (names : Names) : Space α :=
  ((s.addSemaphore names.robotSemaphore).2.addSemaphore names.simulatorSemaphore).2

def TurnSemaphores.created (s : Space α) (names : Names) : TurnSemaphores :=
  ⟨⟨names.robotSemaphore, s.counts.size⟩, ⟨names.simulatorSemaphore, s.counts.size + 1⟩⟩

theorem size_counts_addSemaphore (s : Space α) (name : String) :
    (s.addSemaphore name).2.counts.size = s.counts.size + 1 := by
  simp [Space.addSemaphore]

theorem createTurns_forced {names : Names} (robot : ValidName names.robotSemaphore)
    (simulator : ValidName names.simulatorSemaphore) (w : World α σ) :
    ∃ journal, (TurnSemaphores.create names).run w =
      (.ok (.created w.space names), ⟨w.space.withSemaphores names, w.peer, journal⟩) := by
  obtain ⟨-, -, first, ranRobot⟩ | ⟨refused, -⟩ := createSemaphore_cases names.robotSemaphore true w
  · obtain ⟨-, -, second, ranSimulator⟩ | ⟨refused, -⟩ := createSemaphore_cases
      names.simulatorSemaphore true
      ⟨(w.space.addSemaphore names.robotSemaphore).2, w.peer, first⟩
    · refine ⟨second, ?_⟩
      simp only [TurnSemaphores.create, run_bind, ranRobot, ranSimulator, run_pure,
        size_counts_addSemaphore]
      rfl
    · simp [simulator] at refused
  · simp [robot] at refused

theorem run_createExclusive (names : Names) (w : World α σ) :
    (TurnSemaphores.createExclusive names).run w =
      match (createSemaphore names.robotSemaphore false).run w with
      | (.ok robot, w) => match (createSemaphore names.simulatorSemaphore false).run w with
        | (.ok simulator, w) => (.ok ⟨robot, simulator⟩, w)
        | (.error e, w) => match (unlinkSemaphore names.robotSemaphore).run w with
          | (.ok (), w) => (.error e, w)
          | (.error e, w) => (.error e, w)
      | (.error e, w) => (.error e, w) := by
  simp only [TurnSemaphores.createExclusive, run_bind, run_tryCatch]
  rcases (createSemaphore names.robotSemaphore false).run w with ⟨_ | robot, w⟩
  · rfl
  · dsimp only
    rcases (createSemaphore names.simulatorSemaphore false).run w with ⟨e | simulator, w⟩
    · dsimp only
      rcases (unlinkSemaphore names.robotSemaphore).run w with ⟨_ | _, w⟩ <;> rfl
    · rfl

def createTurns (names : Names) (exclusive : Bool) : Act α σ Error TurnSemaphores :=
  if exclusive then TurnSemaphores.createExclusive names else TurnSemaphores.create names

/-- Either way the semaphores come into being one after the other, robot first. -/
theorem createTurns_steps {names : Names} {exclusive : Bool} {w w' : World α σ} {t : TurnSemaphores}
    (created : (createTurns names exclusive).run w = (.ok t, w')) :
    ∃ between, (createSemaphore names.robotSemaphore (!exclusive)).run w = (.ok t.robot, between) ∧
      (createSemaphore names.simulatorSemaphore (!exclusive)).run between =
        (.ok t.simulator, w') := by
  cases exclusive with
  | false =>
    simp only [createTurns, Bool.false_eq_true, if_false, TurnSemaphores.create, run_bind] at created
    split at created
    next robot between ranRobot =>
      split at created
      next simulator after ranSimulator =>
        cases created
        exact ⟨between, ranRobot, ranSimulator⟩
      next => cases created
    next => cases created
  | true =>
    simp only [createTurns, if_true, run_createExclusive] at created
    split at created
    next robot between ranRobot =>
      split at created
      next simulator after ranSimulator =>
        cases created
        exact ⟨between, ranRobot, ranSimulator⟩
      next => split at created <;> cases created
    next => cases created

theorem createTurns_ok {names : Names} {exclusive : Bool} {w w' : World α σ} {t : TurnSemaphores}
    (created : (createTurns names exclusive).run w = (.ok t, w')) :
    t = .created w.space names ∧ w'.space = w.space.withSemaphores names ∧ w'.peer = w.peer := by
  obtain ⟨between, ranRobot, ranSimulator⟩ := createTurns_steps created
  obtain ⟨-, -, first, made⟩ | ⟨-, e, made⟩ :=
    createSemaphore_cases names.robotSemaphore (!exclusive) w
  · rw [made] at ranRobot
    obtain ⟨robot, rfl⟩ := Prod.mk.inj ranRobot
    obtain ⟨-, -, second, made⟩ | ⟨-, e, made⟩ :=
      createSemaphore_cases names.simulatorSemaphore (!exclusive)
        ⟨(w.space.addSemaphore names.robotSemaphore).2, w.peer, first⟩
    · rw [made] at ranSimulator
      obtain ⟨simulator, rfl⟩ := Prod.mk.inj ranSimulator
      refine ⟨?_, rfl, rfl⟩
      cases t
      simp only [Except.ok.injEq, size_counts_addSemaphore] at robot simulator
      rw [TurnSemaphores.created, robot, simulator]
    · rw [made] at ranSimulator
      cases ranSimulator
  · rw [made] at ranRobot
    cases ranRobot

def Space.withChannel [Inhabited α] (s : Space α) (names : Names) (valueSize : Nat) : Space α :=
  (s.addRegion names.region ⟨regionSizeFor valueSize, default⟩).2.withSemaphores names

theorem size_counts_withChannel [Inhabited α] (s : Space α) (names : Names) (valueSize : Nat) :
    (s.withChannel names valueSize).counts.size = s.counts.size + 2 := by
  simp [Space.withChannel, Space.withSemaphores, size_counts_addSemaphore, Space.addRegion]

theorem count_withChannel [Inhabited α] (s : Space α) (names : Names) (valueSize id : Nat) :
    (s.withChannel names valueSize).count id = s.count id := by
  simp only [Space.withChannel, Space.withSemaphores, Space.count_addSemaphore]
  rfl

theorem content?_withChannel [Inhabited α] (s : Space α) (names : Names) (valueSize : Nat) :
    (s.withChannel names valueSize).content? s.regions.size = some default := by
  simp [Space.withChannel, Space.withSemaphores, Space.addSemaphore, Space.addRegion,
    Space.content?]

def Endpoint.created (s : Space α) (names : Names) (valueSize : Nat) : Endpoint :=
  ⟨.simulator, names, ⟨names.region, s.regions.size, regionSizeFor valueSize, true⟩,
    .created s names, .active, 0⟩

def createdRecord (names : Names) : Record :=
  ⟨.info, "Simulator channel created",
    [("region", .text names.region), ("robot_semaphore", .text names.robotSemaphore),
      ("simulator_semaphore", .text names.simulatorSemaphore)]⟩

theorem run_create [Inhabited α] (names : Names) (valueSize : Nat) (exclusive : Bool)
    (w : World α σ) :
    (Endpoint.create names valueSize exclusive).run w =
      match (createRegion names.region valueSize !exclusive).run w with
      | (.ok region, w) => match (createTurns names exclusive).run w with
        | (.ok turns, w) =>
          (.ok ⟨.simulator, names, region, turns, .active, 0⟩, w.note (createdRecord names))
        | (.error e, w) => match region.destroy.run w with
          | (.ok _, w) => (.error e, w)
          | (.error e, w) => (.error e, w)
      | (.error e, w) => (.error e, w) := by
  simp only [Endpoint.create, run_bind, run_tryCatch]
  rcases (createRegion names.region valueSize !exclusive).run w with ⟨_ | region, w⟩
  · rfl
  · dsimp only
    cases exclusive with
    | false =>
      simp only [createTurns, Bool.false_eq_true, if_false, run_bind]
      rcases (TurnSemaphores.create names).run w with ⟨_ | turns, w⟩
      · dsimp only
        rcases region.destroy.run w with ⟨_ | _, w⟩ <;> rfl
      · rfl
    | true =>
      simp only [createTurns, if_true, run_bind]
      rcases (TurnSemaphores.createExclusive names).run w with ⟨_ | turns, w⟩
      · dsimp only
        rcases region.destroy.run w with ⟨_ | _, w⟩ <;> rfl
      · rfl

/-- Where the region would have a directory's name no channel is made, and the
names of the semaphores are not looked at. -/
theorem create_directory [Inhabited α] {names : Names} (valid : ValidName names.region)
    (directory : names.region ∈ directoryNames) (valueSize : Nat) (exclusive : Bool)
    (w : World α σ) : ∃ journal, (Endpoint.create names valueSize exclusive).run w =
      (.error (if exclusive then .regionExists names.region else .system .isDirectory),
        { w with journal := journal }) := by
  obtain ⟨journal, refused⟩ := run_createRegion_directory valid directory valueSize (!exclusive) w
  refine ⟨journal, ?_⟩
  rw [run_create, refused]
  cases exclusive <;> rfl

/-- Forced creation cannot fail on valid names, whatever they are bound to. -/
theorem create_forced [Inhabited α] {names : Names} (region : RegionName names.region)
    (robot : ValidName names.robotSemaphore) (simulator : ValidName names.simulatorSemaphore)
    (valueSize : Nat) (w : World α σ) :
    ∃ journal, (Endpoint.create names valueSize false).run w =
      (.ok (.created w.space names valueSize),
        ⟨w.space.withChannel names valueSize, w.peer, journal⟩) := by
  obtain ⟨-, -, first, ranRegion⟩ | ⟨refused, -⟩ :=
    createRegion_cases names.region valueSize true w
  · obtain ⟨second, ranTurns⟩ := createTurns_forced robot simulator
      (⟨(w.space.addRegion names.region ⟨regionSizeFor valueSize, default⟩).2, w.peer, first⟩ :
        World α σ)
    refine ⟨second.push (createdRecord names), ?_⟩
    simp only [run_create, Bool.not_false, ranRegion, createTurns, Bool.false_eq_true, if_false,
      ranTurns]
    rfl
  · simp [region] at refused

theorem create_ok [Inhabited α] {names : Names} {valueSize : Nat} {exclusive : Bool}
    {w w' : World α σ} {e : Endpoint}
    (created : (Endpoint.create names valueSize exclusive).run w = (.ok e, w')) :
    e = .created w.space names valueSize ∧ w'.space = w.space.withChannel names valueSize ∧
      w'.peer = w.peer := by
  rw [run_create] at created
  obtain ⟨-, -, journal, ranRegion⟩ | ⟨-, e, _, ranRegion⟩ :=
    createRegion_cases names.region valueSize (!exclusive) w
  · rw [ranRegion] at created
    dsimp only at created
    split at created
    next turns after ranTurns =>
      cases created
      obtain ⟨rfl, space, peer⟩ := createTurns_ok ranTurns
      exact ⟨rfl, space, peer⟩
    next => split at created <;> cases created
  · rw [ranRegion] at created
    cases created

theorem create_regionName [Inhabited α] {names : Names} {valueSize : Nat} {exclusive : Bool}
    {w w' : World α σ} {e : Endpoint}
    (created : (Endpoint.create names valueSize exclusive).run w = (.ok e, w')) :
    RegionName names.region := by
  obtain ⟨named, -⟩ | ⟨-, cause, journal, refused⟩ :=
    createRegion_cases names.region valueSize (!exclusive) w
  · exact named
  · rw [run_create, refused] at created
    cases created

def Endpoint.attached (names : Names) (valueSize region robot simulator : Nat) : Endpoint :=
  ⟨.robot, names, ⟨names.region, region, regionSizeFor valueSize, false⟩,
    ⟨⟨names.robotSemaphore, robot⟩, ⟨names.simulatorSemaphore, simulator⟩⟩, .waiting, 0⟩

theorem attach_cases (names : Names) (valueSize : Nat) (w : World α σ) :
    (∃ region robot simulator, w.space.regionNames names.region = some region ∧
      w.space.semaphoreNames names.robotSemaphore = some robot ∧
      w.space.semaphoreNames names.simulatorSemaphore = some simulator ∧ ∃ journal,
      (Endpoint.attach names valueSize).run w =
        (.ok (.attached names valueSize region robot simulator), { w with journal := journal })) ∨
    ∃ e journal, (Endpoint.attach names valueSize).run w =
      (.error e, { w with journal := journal }) := by
  simp only [Endpoint.attach, TurnSemaphores.openBoth, run_bind]
  obtain ⟨region, foundRegion, first, ran⟩ | ⟨e, ran⟩ := attachRegion_cases names.region valueSize w
  · simp only [ran]
    obtain ⟨robot, foundRobot, second, ran⟩ | ⟨e, ran⟩ :=
      openSemaphore_cases names.robotSemaphore { w with journal := first }
    · simp only [ran]
      obtain ⟨simulator, foundSimulator, third, ran⟩ | ⟨e, ran⟩ :=
        openSemaphore_cases names.simulatorSemaphore { w with journal := second }
      · simp only [ran]
        exact .inl ⟨region, robot, simulator, foundRegion, foundRobot, foundSimulator, _, rfl⟩
      · simp only [ran]
        exact .inr ⟨e, second, rfl⟩
    · simp only [ran]
      exact .inr ⟨e, first, rfl⟩
  · simp only [ran]
    exact .inr ⟨e, w.journal, rfl⟩

theorem attach_found {names : Names} (valid : names.Valid) {valueSize region robot simulator : Nat}
    {w : World α σ} (foundRegion : w.space.regionNames names.region = some region)
    (fits : (w.space.regions[region]?).map (·.size) = some (regionSizeFor valueSize))
    (foundRobot : w.space.semaphoreNames names.robotSemaphore = some robot)
    (foundSimulator : w.space.semaphoreNames names.simulatorSemaphore = some simulator) :
    ∃ journal, (Endpoint.attach names valueSize).run w =
      (.ok (.attached names valueSize region robot simulator), { w with journal := journal }) := by
  simp [Endpoint.attach, attachRegion, openObject, TurnSemaphores.openBoth, openSemaphore,
    requireName_valid valid.region.valid, valid.region.free, requireName_valid valid.robot,
    requireName_valid valid.simulator, foundRegion, fits, foundRobot, foundSimulator, World.note,
    Endpoint.attached]
  exact ⟨_, rfl⟩

end Lockstep.Channel
