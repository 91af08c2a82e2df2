import Lockstep.Proofs.Simulator.Pair
import Lockstep.Proofs.Simulator.Request

/-! A simulator's session with one robot, turn by turn.

Every wait either brings the turn back, served as the robot's program serves the
message, or ends with the turn still away; what was planned for the robot alone
decides which.
-/

set_option autoImplicit false

namespace Lockstep.Simulator

open Channel Parameter Bridge Effect Crew

/-- A session with one robot, and where the turn is between the two. -/
structure Dealing (p : Program) (m : Message) (stage : Stage) (s : Session Crew) : Prop where
  role : s.connection.endpoint.role = .simulator
  objects : s.connection.endpoint.objects = s.world.peer.objects
  phase : s.connection.endpoint.phase = stage.simulator
  paired : Paired p m stage s.world.peer s.world.space
  solo : ∀ moves ∈ s.world.peer.plan, ∀ move ∈ moves, move.Solo

namespace Dealing

variable {p : Program} {m : Message} {stage : Stage} {s : Session Crew}

theorem ids (dealing : Dealing p m stage s) :
    s.connection.endpoint.region.id = s.world.peer.objects.region ∧
      s.connection.endpoint.own.id = s.world.peer.objects.simulator ∧
      s.connection.endpoint.other.id = s.world.peer.objects.robot :=
  Endpoint.ids_simulator dealing.role dealing.objects

theorem content (dealing : Dealing p m stage s) :
    s.world.space.content? s.connection.endpoint.region.id = some (stage.message m) := by
  rw [dealing.ids.1]
  exact dealing.paired.afloat.content

theorem room (dealing : Dealing p m stage s) :
    s.world.space.count s.connection.endpoint.own.id < Space.maxCount := by
  rw [dealing.ids.2.1, dealing.paired.lying]
  exact Nat.lt_of_le_of_lt Stage.lying_le (by decide)

theorem handed (dealing : Dealing p m .home s) (m' : Message) (requests : UInt64) :
    Dealing p m' .lies (s.handed m' requests) := by
  obtain ⟨region, own, -⟩ := dealing.ids
  refine ⟨dealing.role, dealing.objects, rfl, ?_, dealing.solo⟩
  unfold Session.handed
  rw [region, own]
  exact dealing.paired.hand m'

theorem write (dealing : Dealing p m .home s) (m' : Message) : Dealing p m' .home
    (s.withSpace (s.world.space.setContent s.connection.endpoint.region.id m')) := by
  refine ⟨dealing.role, dealing.objects, dealing.phase, ?_, dealing.solo⟩
  rw [dealing.ids.1]
  exact dealing.paired.write m'

theorem acts (dealing : Dealing p m .home s) {moves : List Move}
    (solo : ∀ move ∈ moves, move.Solo) :
    let (crew, space) := Crew.acts moves s.world.peer s.world.space
    Dealing p m .home { s with world := ⟨space, crew, s.world.journal⟩ } := by
  have paired := dealing.paired.acts solo
  rw [Stage.foldl_next_home] at paired
  obtain ⟨objects, plan⟩ := dealing.paired.acts_keeps solo
  refine ⟨dealing.role, dealing.objects.trans objects.symm, dealing.phase, paired, ?_⟩
  exact plan ▸ dealing.solo

theorem counted (dealing : Dealing p m stage s) : Dealing p m stage s.counted :=
  ⟨dealing.role, dealing.objects, dealing.phase, dealing.paired, dealing.solo⟩

theorem noted (dealing : Dealing p m stage s) (r : Record) : Dealing p m stage (s.noted r) :=
  ⟨dealing.role, dealing.objects, dealing.phase, dealing.paired, dealing.solo⟩

end Dealing

def Came (p : Program) (m : Message) (stage : Stage) (t : Session Crew) : Prop :=
  ∃ mode turn, stage = .back mode turn ∧ p.serve m = (.ok mode, turn) ∧
    Dealing (stage.program p) (stage.message m) .home t

def Missed (p : Program) (m : Message) (stage : Stage) (t : Session Crew) : Prop :=
  stage.Away ∧ Dealing p m stage t

theorem Missed.waiting {p : Program} {m : Message} {stage : Stage} {t : Session Crew}
    (missed : Missed p m stage t) : t.connection.endpoint.phase = .waiting :=
  missed.2.phase.trans missed.1.waiting.1

theorem Missed.noted {p : Program} {m : Message} {stage : Stage} {t : Session Crew}
    (missed : Missed p m stage t) (r : Record) : Missed p m stage (t.noted r) :=
  ⟨missed.1, missed.2.noted r⟩

namespace Talk

variable {p : Program} {m : Message} {stage : Stage} {s : Session Crew}

theorem awaitTurn_deals (dealing : Dealing p m stage s) (away : stage.Away) :
    Ends awaitTurn s fun r t =>
      let stage' := (s.world.peer.plan.headD []).foldl (Stage.next p m) stage
      (Came p m stage' t ∧ r = .ok true) ∨
        (Missed p m stage' t ∧ t.world.peer.plan = s.world.peer.plan.tail ∧ r = .ok false) := by
  have waiting : s.connection.endpoint.phase = .waiting := dealing.phase.trans away.waiting.1
  have none : s.world.space.take? s.world.peer.objects.robot = none :=
    (Space.take?_eq_none_iff _ _).mpr (dealing.paired.returned.trans away.waiting.2)
  obtain ⟨paired, objects, plan⟩ := dealing.paired.await dealing.solo
  have solo : ∀ moves ∈ (s.world.peer.await s.world.space).1.plan, ∀ move ∈ moves, move.Solo := by
    rw [plan]
    exact fun moves member => dealing.solo moves (List.mem_of_mem_tail member)
  have same : s.connection.endpoint.objects = (s.world.peer.await s.world.space).1.objects :=
    dealing.objects.trans objects.symm
  have ran := run_awaitTurn waiting
  rw [dealing.ids.2.2] at ran
  simp only [World.await, none, Peer.move] at ran
  generalize s.world.peer.await s.world.space = moved at paired objects plan solo same ran
  obtain ⟨crew, space⟩ := moved
  dsimp only at paired objects plan solo same ran
  rw [← objects] at ran
  obtain still | ⟨mode, turn, back⟩ :=
    Stage.Away.foldl (p := p) (m := m) away (s.world.peer.plan.headD [])
  · have missed : space.take? crew.objects.robot = Option.none :=
      (Space.take?_eq_none_iff _ _).mpr (paired.returned.trans still.waiting.2)
    rw [missed] at ran
    exact .of_run ran (.inr ⟨⟨still, dealing.role, same, waiting.trans still.waiting.1.symm,
      paired, solo⟩, plan, rfl⟩)
  · dsimp only
    rw [back] at paired ⊢
    rcases taken : space.take? crew.objects.robot with _ | t
    · have empty := (Space.take?_eq_none_iff _ _).mp taken
      cases paired.returned.symm.trans empty
    · rw [taken] at ran
      exact .of_run ran (.inl ⟨⟨mode, turn, rfl, paired.sound, dealing.role, same, rfl,
        paired.returns taken, solo⟩, rfl⟩)

theorem exchange_deals (dealing : Dealing p m .home s) (mode : Mode) :
    Ends (exchange mode) s fun r t =>
      let asked := m.setMode mode
      let stage := (s.world.peer.plan.headD []).foldl (Stage.next p asked) .lies
      (Came p asked stage t ∧ r = .ok ()) ∨
        (Missed p asked stage t ∧
          r = .error (.robotStalled (stage.message asked).toSimulator.faultText?)) := by
  have waited := awaitTurn_deals (dealing.handed (m.setMode mode) s.connection.requests) trivial
  apply exchange_of_awaitTurn dealing.phase dealing.content dealing.room waited
  · rintro t (⟨⟨mode', turn, back, served, dealing⟩, -⟩ | ⟨-, -, went⟩)
    · exact .inl ⟨⟨mode', turn, back, served, dealing.counted⟩, rfl⟩
    · cases went
  · rintro t (⟨-, went⟩ | ⟨missed, -, -⟩)
    · cases went
    · exact ⟨_, missed.2.content, .inr ⟨missed, rfl⟩⟩

theorem awaitRobot_deals (keepWaiting : Nat → Crew → Bool) (fuel waited : Nat)
    (dealing : Dealing p m stage s) (away : stage.Away) :
    Ends (awaitRobot keepWaiting fuel waited) s fun _ t =>
      ∃ stage', Came p m stage' t ∨ Missed p m stage' t := by
  refine awaitRobot_of_awaitTurn (fun t => ∃ stage', Missed p m stage' t) ?_ ?_ ?_ ?_ keepWaiting
    fuel waited ⟨stage, away, dealing⟩
  · exact fun t ⟨stage', missed⟩ => missed.waiting
  · intro s ⟨stage, away, dealing⟩
    refine (awaitTurn_deals dealing away).mono ?_
    generalize (s.world.peer.plan.headD []).foldl (Stage.next p m) stage = stage'
    rintro r t (⟨⟨mode, turn, back, served, dealing⟩, rfl⟩ | ⟨missed, -, rfl⟩)
    · exact ⟨fun _ record => ⟨stage', .inl ⟨mode, turn, back, served, dealing.counted.noted record⟩⟩,
        nofun⟩
    · exact ⟨nofun, fun _ => ⟨_, missed.2.content, fun _ _ => ⟨stage', .inr missed⟩,
        fun _ => ⟨stage', missed⟩⟩⟩
  · exact fun t record ⟨stage', missed⟩ => ⟨stage', missed.noted record⟩
  · exact fun t ⟨stage', missed⟩ => ⟨⟨stage', .inr missed⟩, ⟨stage', .inr missed⟩⟩

theorem handshake_deals (dealing : Dealing p m .home s) (fuel : Nat)
    (keepWaiting : Nat → Crew → Bool) :
    Ends (handshake fuel keepWaiting) s fun _ t =>
      ∃ stage, Came p (m.setMode .idle) stage t ∨ Missed p (m.setMode .idle) stage t := by
  apply handshake_of_awaitRobot dealing.phase dealing.content dealing.room
  exact awaitRobot_deals keepWaiting fuel 0 (dealing.handed _ _) trivial

/-- Something about a crew that waits keep, with the stage that the turn is at. -/
def Lasting (p : Program) (m : Message) (keep : Stage → Crew → Prop) : Prop :=
  ∀ (stage : Stage) (s : Session Crew), Dealing p m stage s → stage.Away →
    keep stage s.world.peer → Ends awaitTurn s fun _ t =>
      keep ((s.world.peer.plan.headD []).foldl (Stage.next p m) stage) t.world.peer

section

variable {keep : Stage → Crew → Prop}

theorem awaitAnswer_keeps (name : String) (number : UInt64) (waits attempt : Nat)
    (dealing : Dealing p m stage s) (away : stage.Away) (lasting : Lasting p m keep)
    (holds : keep stage s.world.peer) :
    Ends (awaitAnswer name number waits attempt) s fun r t =>
      let stage' := (s.world.peer.plan.take waits).flatten.foldl (Stage.next p m) stage
      ((Came p m stage' t ∧ r = .ok true) ∨ (Missed p m stage' t ∧ r = .ok false)) ∧
        keep stage' t.world.peer := by
  refine awaitAnswer_of_awaitTurn
    (fun n t => ∃ stage', Missed p m stage' t ∧ keep stage' t.world.peer ∧
      (t.world.peer.plan.take n).flatten.foldl (Stage.next p m) stage' =
        (s.world.peer.plan.take waits).flatten.foldl (Stage.next p m) stage)
    ?_ ?_ ?_ name number attempt ⟨stage, ⟨away, dealing⟩, holds, rfl⟩
  · exact fun n t ⟨stage', missed, _⟩ => missed.waiting
  · intro n t ⟨stage', ⟨away, dealing⟩, holds, planned⟩
    rw [← planned]
    have split : (t.world.peer.plan.take (n + 1)).flatten =
        t.world.peer.plan.headD [] ++ (t.world.peer.plan.tail.take n).flatten := by
      cases t.world.peer.plan <;> simp
    rw [split, List.foldl_append]
    refine ((awaitTurn_deals dealing away).and (lasting stage' t dealing away holds)).mono ?_
    generalize (t.world.peer.plan.headD []).foldl (Stage.next p m) stage' = stage''
    rintro r u ⟨⟨⟨mode, turn, rfl, served, dealing⟩, rfl⟩ | ⟨⟨away, dealing⟩, plan, rfl⟩, kept⟩
    · refine ⟨fun _ => ?_, nofun⟩
      rw [Stage.foldl_next_back]
      exact ⟨.inl ⟨⟨mode, turn, rfl, served, dealing⟩, rfl⟩, kept⟩
    · refine ⟨nofun, fun _ record => ⟨stage'', ⟨away, dealing.noted record⟩, kept, ?_⟩⟩
      rw [← plan]
      rfl
  · rintro t ⟨stage', missed, kept, planned⟩
    rw [List.take_zero] at planned
    subst planned
    exact ⟨.inr ⟨missed, rfl⟩, kept⟩

theorem request_keeps (dealing : Dealing p m .home s) {wanted : RequestKind} {name : String}
    {value : Value} {q : Message.Request}
    (made : Message.Request.make (s.connection.requests + 1) wanted name value = .ok q)
    (lasting : Lasting p (requesting m q) keep) (holds : keep .lies s.world.peer) :
    Ends (request wanted name value) s fun r t =>
      let waits := s.world.peer.plan.take (s.connection.options.retries + 1)
      let stage := waits.flatten.foldl (Stage.next p (requesting m q)) .lies
      ((Came p (requesting m q) stage t ∧
        r = checkResponse (stage.message (requesting m q)).toSimulator.response
          (s.connection.requests + 1) wanted name) ∨
      (Missed p (requesting m q) stage t ∧
        r = .error (.notAcknowledged name (s.connection.requests + 1)
          (stage.message (requesting m q)).toSimulator.faultText?))) ∧ keep stage t.world.peer := by
  have waited := awaitAnswer_keeps name (s.connection.requests + 1)
    (s.connection.options.retries + 1) 0
    (dealing.handed (requesting m q) (s.connection.requests + 1)) trivial lasting holds
  have plan : (s.handed (requesting m q) (s.connection.requests + 1)).world.peer.plan =
    s.world.peer.plan := rfl
  rw [plan] at waited
  dsimp only at waited ⊢
  generalize (s.world.peer.plan.take _).flatten.foldl _ Stage.lies = stage at waited ⊢
  apply request_of_awaitAnswer dealing.phase dealing.content dealing.room made waited
  · rintro e t ⟨⟨-, went⟩ | ⟨-, went⟩, -⟩ <;> cases went
  · rintro t ⟨⟨⟨mode, turn, back, served, dealing⟩, -⟩ | ⟨-, went⟩, kept⟩
    · have counted := dealing.counted
      refine ⟨dealing.phase, _, dealing.content, fun r checked => ⟨⟨.inl ⟨?_, checked.symm⟩, kept⟩,
        fun record => ⟨.inl ⟨?_, checked.symm⟩, kept⟩⟩⟩
      · exact ⟨mode, turn, back, served, counted⟩
      · exact ⟨mode, turn, back, served, counted.noted record⟩
    · cases went
  · rintro t ⟨⟨-, went⟩ | ⟨missed, -⟩, kept⟩
    · cases went
    · exact ⟨_, missed.2.content, .inr ⟨missed, rfl⟩, kept⟩

end

theorem request_deals (dealing : Dealing p m .home s) {wanted : RequestKind} {name : String}
    {value : Value} {q : Message.Request}
    (made : Message.Request.make (s.connection.requests + 1) wanted name value = .ok q) :
    Ends (request wanted name value) s fun r t =>
      let waits := s.world.peer.plan.take (s.connection.options.retries + 1)
      let stage := waits.flatten.foldl (Stage.next p (requesting m q)) .lies
      (Came p (requesting m q) stage t ∧
        r = checkResponse (stage.message (requesting m q)).toSimulator.response
          (s.connection.requests + 1) wanted name) ∨
      (Missed p (requesting m q) stage t ∧
        r = .error (.notAcknowledged name (s.connection.requests + 1)
          (stage.message (requesting m q)).toSimulator.faultText?)) := by
  have lasting : Lasting p (requesting m q) fun _ _ => True := by
    intro _ _ dealing away _
    exact (awaitTurn_deals dealing away).mono fun _ _ _ => trivial
  exact (request_keeps dealing made lasting trivial).mono fun _ _ ended => ended.1

end Talk

end Lockstep.Simulator
