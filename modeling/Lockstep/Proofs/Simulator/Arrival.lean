import Lockstep.Proofs.Channel.Port
import Lockstep.Proofs.Simulator.Opening
import Lockstep.Proofs.Simulator.Streamed

/-! A simulator that waits for a robot to come.

Its first turn lies on the channel until the robot attaches. From then on all
goes as if the robot had been aboard all along.
-/

set_option autoImplicit false

namespace Lockstep

open Channel Message Bridge Effect

namespace Crew

/-- Nothing is planned but that one robot comes at some time and stays alone. -/
inductive Expects (names : Names) (program : Program) : List (List Move) → Prop where
  | now {first : List Move} {rest : List (List Move)} : (∀ move ∈ first, move.Solo) →
      (∀ moves ∈ rest, ∀ move ∈ moves, move.Solo) →
      Expects names program ((.join names program :: first) :: rest)
  | later {rest : List (List Move)} : Expects names program rest →
      Expects names program ([] :: rest)

/-- A channel that is found under its names, with turns that lie there, and nobody aboard. -/
structure Vacant (names : Names) (m : Message) (lying : Nat) (crew : Crew)
    (s : Space Message) : Prop where
  afloat : crew.Afloat s m
  nobody : crew.mates = []
  lying : s.count crew.objects.simulator = lying
  returned : s.count crew.objects.robot = 0
  region : s.regionNames names.region = some crew.objects.region
  fits : (s.regions[crew.objects.region]?).map (·.size) =
    some (regionSizeFor (Wire.Layout.size Message))
  robot : s.semaphoreNames names.robotSemaphore = some crew.objects.robot
  simulator : s.semaphoreNames names.simulatorSemaphore = some crew.objects.simulator

def newcomer (names : Names) (program : Program) (objects : Objects) : Mate :=
  ⟨⟨.attached names (Wire.Layout.size Message) objects.region objects.robot objects.simulator,
    program⟩, false, 0, []⟩

namespace Vacant

variable {names : Names} {m : Message} {lying : Nat} {crew : Crew} {s : Space Message}
  {program : Program}

theorem opened (valid : names.Valid) (s : Space Message) (robot : Robot)
    (options : Simulator.Options) (plan : List (List Move)) :
    Vacant names (Simulator.opening robot) 0
      (.start (Simulator.Connection.created s names robot options).endpoint.objects plan)
      (Simulator.opened s names robot) := by
  have tally := (Simulator.Synced.opened s names robot options plan #[]).active rfl
  have few := tally.few
  unfold turns at few
  dsimp only at few
  constructor
  case afloat => exact tally.afloat
  case nobody => rfl
  case lying => omega
  case returned => omega
  case region => exact Bindings.bind_self _ _ _
  case fits =>
    have fits := (Use.write s.regions.size (Simulator.opening robot)).sizes
      (s.withChannel names (Wire.Layout.size Message)) s.regions.size
    apply fits.trans
    simp [Space.withChannel, Space.withSemaphores, Space.addSemaphore, Space.addRegion]
  case robot => exact (Bindings.bind_other _ _ valid.differ).trans (Bindings.bind_self _ _ _)
  case simulator =>
    change ((s.semaphoreNames.bind names.robotSemaphore _).bind names.simulatorSemaphore _)
      names.simulatorSemaphore = some (s.counts.size + 1)
    rw [Bindings.bind_self]
    simp [Space.addSemaphore, Space.addRegion]

theorem relabel (vacant : crew.Vacant names m lying s) (plan : List (List Move)) :
    Vacant names m lying { crew with plan := plan } s :=
  ⟨vacant.afloat.relabel plan crew.late, vacant.nobody, vacant.lying, vacant.returned,
    vacant.region, vacant.fits, vacant.robot, vacant.simulator⟩

theorem write (vacant : crew.Vacant names m lying s) (m' : Message) :
    crew.Vacant names m' lying (s.setContent crew.objects.region m') := by
  have fits := (Use.write crew.objects.region m').sizes s crew.objects.region
  exact ⟨vacant.afloat.write m', vacant.nobody, vacant.lying, vacant.returned, vacant.region,
    fits.trans vacant.fits, vacant.robot, vacant.simulator⟩

theorem hand (vacant : crew.Vacant names m lying s) (m' : Message) :
    crew.Vacant names m' (lying + 1)
      ((s.setContent crew.objects.region m').post crew.objects.simulator) := by
  obtain ⟨afloat, -⟩ := vacant.afloat.hand m'
  have wrote := vacant.write m'
  constructor
  case afloat => exact afloat
  case nobody => exact vacant.nobody
  case lying =>
    exact (Space.count_post_self _ vacant.afloat.simulatorExists).trans
      (congrArg (· + 1) vacant.lying)
  case returned =>
    exact (Space.count_post_other _ vacant.afloat.apart).trans vacant.returned
  case region => exact vacant.region
  case fits => exact wrote.fits
  case robot => exact vacant.robot
  case simulator => exact vacant.simulator

theorem join (vacant : crew.Vacant names m lying s) (valid : names.Valid) (program : Program) :
    crew.join names program s = { crew with mates := [newcomer names program crew.objects] } := by
  obtain ⟨journal, ran⟩ := attach_found (w := worldOf s) valid vacant.region vacant.fits
    vacant.robot vacant.simulator
  have same : (Endpoint.attached names (Wire.Layout.size Message) crew.objects.region
    crew.objects.robot crew.objects.simulator).objects = crew.objects := rfl
  unfold Crew.join Bridge.connect
  simp only [run_bind, run_adapt, ran, Except.mapError, Act.run_note, run_pure]
  rw [if_pos same, vacant.nobody]
  rfl

theorem await_later {rest : List (List Move)} (vacant : crew.Vacant names m lying s)
    (plan : crew.plan = [] :: rest) : crew.await s = ({ crew with plan := rest }, s) := by
  have unversed : crew.versed = false := by simp [versed, vacant.nobody]
  unfold Crew.await
  rw [plan, unversed]
  simp [acts]

theorem await_now {first : List Move} {rest : List (List Move)}
    (vacant : crew.Vacant names m lying s) (valid : names.Valid)
    (plan : crew.plan = (.join names program :: first) :: rest) : crew.await s =
      Crew.await { crew with
        mates := [newcomer names program crew.objects], plan := first :: rest } s := by
  have joined := (vacant.relabel rest).join valid program
  have unversed : crew.versed = false := by simp [versed, vacant.nobody]
  unfold Crew.await
  rw [plan, unversed]
  simp only [List.headD_cons, List.tail_cons, acts, act, joined]
  simp [versed, newcomer]

theorem paired (vacant : crew.Vacant names m 1 s) (program : Program) (plan : List (List Move)) :
    Paired program m .lies
      { crew with mates := [newcomer names program crew.objects], plan := plan } s := by
  constructor
  case afloat =>
    obtain ⟨apart, robotExists, simulatorExists, content, -⟩ := vacant.afloat
    refine ⟨apart, robotExists, simulatorExists, content, fun mate member => ?_⟩
    obtain rfl := List.mem_singleton.mp member
    exact ⟨rfl, rfl, nofun, by simp [newcomer]⟩
  case mate => exact ⟨_, rfl, rfl, rfl, rfl⟩
  case sound => trivial
  case lying => exact vacant.lying
  case returned => exact vacant.returned

end Vacant

end Crew

namespace Simulator

open Crew

/-- A simulator that has given its turn away, on a channel to which one robot will come. -/
structure Expecting (names : Names) (program : Program) (m : Message) (s : Session Crew) :
    Prop where
  role : s.connection.endpoint.role = .simulator
  objects : s.connection.endpoint.objects = s.world.peer.objects
  phase : s.connection.endpoint.phase = .waiting
  vacant : s.world.peer.Vacant names m 1 s.world.space
  plan : Expects names program s.world.peer.plan

variable {names : Names} {program : Program} {m : Message} {s : Session Crew} {stage : Stage}

theorem Expecting.unserved (expecting : Expecting names program m s) : ¬ AllServed s := by
  intro served
  cases served.lying.symm.trans expecting.vacant.lying

/-- A turn that no program fails over is not served as long as it is away. -/
theorem Missed.unserved (missed : Missed program m stage s)
    (serves : ∀ e turn, program.serve m ≠ (.error e, turn)) : ¬ AllServed s := by
  intro served
  obtain ⟨e, turn, rfl⟩ := missed.failed served
  exact serves e turn missed.2.paired.sound

namespace Talk

theorem awaitTurn_expecting (valid : names.Valid) (expecting : Expecting names program m s) :
    Ends awaitTurn s fun r t => (∃ stage, Came program m stage t ∧ r = .ok true) ∨
      ((∃ stage, Missed program m stage t) ∨ Expecting names program m t) ∧ r = .ok false := by
  obtain ⟨role, objects, phase, vacant, plan⟩ := expecting
  obtain ⟨⟨endpoint, kind, options, requests, exchanges⟩, space, crew, journal⟩ := s
  dsimp only at role objects phase vacant plan
  have none : space.take? endpoint.other.id = none := by
    rw [(Endpoint.ids_simulator role objects).2.2]
    exact (Space.take?_eq_none_iff _ _).mpr vacant.returned
  generalize planned : crew.plan = plans at plan
  cases plan with
  | @later rest expects =>
    have ran := run_awaitTurn (s := ⟨⟨endpoint, kind, options, requests, exchanges⟩,
      ⟨space, crew, journal⟩⟩) phase
    simp only [World.await, none, Peer.move, vacant.await_later planned] at ran
    exact .of_run ran (.inr ⟨.inr ⟨role, objects, phase, vacant.relabel rest, expects⟩, rfl⟩)
  | @now first rest solo alone =>
    let aboard : Crew :=
      { crew with mates := [newcomer names program crew.objects], plan := first :: rest }
    have dealing : Dealing program m .lies
        ⟨⟨endpoint, kind, options, requests, exchanges⟩, ⟨space, aboard, journal⟩⟩ := by
      refine ⟨role, objects, phase, vacant.paired program _, fun moves member => ?_⟩
      obtain rfl | there := List.mem_cons.mp member
      · exact solo
      · exact alone moves there
    have deals := awaitTurn_deals dealing trivial
    unfold Ends at deals ⊢
    rw [run_awaitTurn phase] at deals ⊢
    simp only [World.await, none, Peer.move] at deals ⊢
    rw [vacant.await_now valid planned]
    obtain ⟨came, went⟩ | ⟨missed, -, went⟩ := deals
    · exact .inl ⟨_, came, went⟩
    · exact .inr ⟨.inl ⟨_, missed⟩, went⟩

theorem awaitRobot_expecting (valid : names.Valid) (expecting : Expecting names program m s)
    (serves : ∀ e turn, program.serve m ≠ (.error e, turn)) (keepWaiting : Nat → Crew → Bool)
    (fuel waited : Nat) :
    Ends (awaitRobot keepWaiting fuel waited) s fun r t =>
      (∃ stage, Came program m stage t ∧ r = .ok (some true)) ∨
        ¬ AllServed t ∧ r ≠ .ok (some true) := by
  have unserved (t : Session Crew)
      (away : (∃ stage, Missed program m stage t) ∨ Expecting names program m t) :
      ¬ AllServed t := by
    obtain ⟨stage, missed⟩ | expecting := away
    · exact missed.unserved serves
    · exact expecting.unserved
  refine awaitRobot_of_awaitTurn
    (fun t => (∃ stage, Missed program m stage t) ∨ Expecting names program m t) ?_ ?_ ?_ ?_
    keepWaiting fuel waited (.inr expecting)
  · rintro t (⟨stage, missed⟩ | expecting)
    · exact missed.waiting
    · exact expecting.phase
  · rintro s (⟨stage, away, dealing⟩ | expecting)
    · apply (awaitTurn_deals dealing away).mono
      rintro r t (⟨⟨mode, turn, back, served, dealing⟩, rfl⟩ | ⟨missed, -, rfl⟩)
      · exact ⟨fun _ record => .inl ⟨_, ⟨mode, turn, back, served, dealing.counted.noted record⟩,
          rfl⟩, nofun⟩
      · exact ⟨nofun, fun _ => ⟨_, missed.2.content, fun _ _ => .inr ⟨missed.unserved serves, nofun⟩,
          fun _ => .inl ⟨_, missed⟩⟩⟩
    · apply (awaitTurn_expecting valid expecting).mono
      rintro r t (⟨stage, ⟨mode, turn, back, served, dealing⟩, rfl⟩ | ⟨away, rfl⟩)
      · exact ⟨fun _ record => .inl ⟨stage, ⟨mode, turn, back, served,
          dealing.counted.noted record⟩, rfl⟩, nofun⟩
      · obtain ⟨m', content⟩ : ∃ m', t.world.space.content? t.connection.endpoint.region.id =
            some m' := by
          obtain ⟨stage, missed⟩ | expecting := away
          · exact ⟨_, missed.2.content⟩
          · rw [(Endpoint.ids_simulator expecting.role expecting.objects).1]
            exact ⟨m, expecting.vacant.afloat.content⟩
        exact ⟨nofun, fun _ => ⟨m', content, fun _ _ => .inr ⟨unserved t away, nofun⟩, fun _ => away⟩⟩
  · rintro t record (⟨stage, missed⟩ | expecting)
    · exact .inl ⟨stage, missed.noted record⟩
    · exact .inr ⟨expecting.role, expecting.objects, expecting.phase, expecting.vacant,
        expecting.plan⟩
  · intro t away
    exact ⟨.inr ⟨unserved t away, nofun⟩, .inr ⟨unserved t away, nofun⟩⟩

theorem handshake_expecting (valid : names.Valid)
    (role : s.connection.endpoint.role = .simulator)
    (objects : s.connection.endpoint.objects = s.world.peer.objects)
    (active : s.connection.endpoint.phase = .active)
    (vacant : s.world.peer.Vacant names m 0 s.world.space)
    (plan : Expects names program s.world.peer.plan)
    (serves : ∀ e turn, program.serve (m.setMode .idle) ≠ (.error e, turn)) (fuel : Nat)
    (keepWaiting : Nat → Crew → Bool) :
    Ends (handshake fuel keepWaiting) s fun r t =>
      (∃ stage, Came program (m.setMode .idle) stage t ∧ r = .ok (some true)) ∨
        ¬ AllServed t ∧ r ≠ .ok (some true) := by
  obtain ⟨region, own, -⟩ := Endpoint.ids_simulator role objects
  apply handshake_of_awaitRobot active
  · rw [region]
    exact vacant.afloat.content
  · rw [own, vacant.lying]
    decide
  have expecting : Expecting names program (m.setMode .idle)
      (s.handed (m.setMode .idle) s.connection.requests) := by
    refine ⟨role, objects, rfl, ?_, plan⟩
    unfold Session.handed
    rw [region, own]
    exact vacant.hand _
  exact awaitRobot_expecting valid expecting serves keepWaiting fuel 0

end Talk

end Simulator

end Lockstep
