import Lockstep.Proofs.Channel.Closing
import Lockstep.Proofs.Simulator.Ledger
import Lockstep.Proofs.Simulator.Opening
import Lockstep.Proofs.Simulator.Steps

/-! A simulator's books and those of its crew, between any two steps of a session.

The endpoint of a simulator counts a turn when it is handed over and the connection
when it is back, so they are apart by the turn that is away. What is back was
served by somebody, who has it in the books, whatever became of other turns.
-/

set_option autoImplicit false

namespace Lockstep

open Channel

theorem Crew.Ledger.renamed {lead exchanges : Nat} {crew : Crew} {s t : Space Message} {m : Message}
    (ledger : crew.Ledger lead exchanges s m) (same : s.SameObjects t) :
    crew.Ledger lead exchanges t m := by
  obtain ⟨⟨apart, robotExists, simulatorExists, content, manned⟩, few, planned, booked, given,
    answered⟩ := ledger
  refine ⟨⟨apart, ?_, ?_, ?_, manned⟩, ?_, planned, booked, ?_, answered⟩
  · rw [same.counts]
    exact robotExists
  · rw [same.counts]
    exact simulatorExists
  · unfold Space.content? at content ⊢
    rw [same.regions]
    exact content
  · unfold Crew.turns at few ⊢
    rw [same.count, same.count]
    exact few
  · rw [same.count]
    exact given

namespace Simulator

open Channel Message Effect Session

/-- A session whose books are in order, with the message in its region. -/
structure Audited (s : Session Crew) (m : Message) : Prop where
  role : s.connection.endpoint.role = .simulator
  objects : s.connection.endpoint.objects = s.world.peer.objects
  ledger : Crew.Ledger s.connection.endpoint.held s.connection.exchanges s.world.peer
    s.world.space m
  own : s.connection.endpoint.completed + s.connection.endpoint.held = s.connection.exchanges + 1

/-- A turn that somebody may yet serve is of a mode of a kind. -/
def Heard (kind : Mode → Prop) (s : Session Crew) (m : Message) : Prop :=
  ∀ mode, s.world.peer.MayServe s.world.space m mode → kind mode

/-- What lies between two moments of a session, as far as turns of modes of a kind were served. -/
structure Spans (kind : Mode → Prop) (s : Session Crew) (m : Message) (t : Session Crew)
    (m' : Message) : Prop where
  deserted : t.world.peer.deserted = false → s.world.peer.deserted = false
  rises : m.toSimulator.response.number.toNat ≤ m'.toSimulator.response.number.toNat
  number : ¬ kind .applyParameters →
    m'.toSimulator.response.number = m.toSimulator.response.number
  served : t.world.peer.deserted = false → ∀ mode, ¬ kind mode →
    t.world.peer.served mode = s.world.peer.served mode

variable {kind : Mode → Prop} {s t u : Session Crew} {m m' m'' : Message}

namespace Spans

theorem still (peer : t.world.peer = s.world.peer)
    (response : m'.toSimulator.response = m.toSimulator.response) : Spans kind s m t m' := by
  refine ⟨?_, ?_, fun _ => congrArg Response.number response, ?_⟩
  · rw [peer]
    exact id
  · rw [response]
  · rw [peer]
    exact fun _ _ _ => rfl

theorem trans (first : Spans kind s m t m') (second : Spans kind t m' u m'') :
    Spans kind s m u m'' := by
  refine ⟨fun stayed => first.deserted (second.deserted stayed),
    Nat.le_trans first.rises second.rises, fun other => ?_, fun stayed mode other => ?_⟩
  · rw [second.number other, first.number other]
  · rw [second.served stayed mode other, first.served (second.deserted stayed) mode other]

theorem of_advance (advance : s.world.peer.Advance s.world.space m t.world.peer t.world.space m')
    (heard : Heard kind s m) : Spans kind s m t m' :=
  ⟨advance.deserted, advance.rises, fun other => advance.number fun may => other (heard _ may),
    fun stayed mode other => advance.served stayed mode fun may => other (heard _ may)⟩

end Spans

namespace Audited

theorem ids (audited : Audited s m) :
    s.connection.endpoint.region.id = s.world.peer.objects.region ∧
      s.connection.endpoint.own.id = s.world.peer.objects.simulator ∧
      s.connection.endpoint.other.id = s.world.peer.objects.robot :=
  Endpoint.ids_simulator audited.role audited.objects

theorem content (audited : Audited s m) :
    s.world.space.content? s.connection.endpoint.region.id = some m := by
  rw [audited.ids.1]
  exact audited.ledger.afloat.content

theorem active (audited : Audited s m) (active : s.connection.endpoint.phase = .active) :
    Crew.Ledger 1 s.connection.exchanges s.world.peer s.world.space m := by
  have ledger := audited.ledger
  rw [Endpoint.held, if_pos active] at ledger
  exact ledger

theorem waiting (audited : Audited s m) (waiting : s.connection.endpoint.phase = .waiting) :
    Crew.Ledger 0 s.connection.exchanges s.world.peer s.world.space m := by
  have ledger := audited.ledger
  rw [Endpoint.held, if_neg (by simp [waiting])] at ledger
  exact ledger

/-- While the simulator has the turn nobody else can serve it. -/
theorem heard (audited : Audited s m) (active : s.connection.endpoint.phase = .active)
    (kind : Mode → Prop) : Heard kind s m := by
  rintro mode ⟨-, some⟩
  exact absurd (audited.active active).alone (Nat.ne_of_gt some)

theorem moved {crew : Crew} {space : Space Message} (audited : Audited s m)
    (ledger : Crew.Ledger s.connection.endpoint.held s.connection.exchanges crew space m')
    (advance : s.world.peer.Advance s.world.space m crew space m') :
    Audited { s with world := { s.world with peer := crew, space := space } } m' :=
  ⟨audited.role, audited.objects.trans advance.objects.symm, ledger, audited.own⟩

/-- One step of a session, after which a turn that may be served is still of the kind. -/
theorem step (audited : Audited s m) (heard : Heard kind s m) (step : Step kind s t) :
    ∃ m', Audited t m' ∧ Heard kind t m' ∧ Spans kind s m t m' := by
  obtain ⟨region, own, other⟩ := audited.ids
  have content := audited.content
  cases step with
  | noted r =>
    exact ⟨m, ⟨audited.role, audited.objects, audited.ledger, audited.own⟩, heard, .still rfl rfl⟩
  | numbered requests =>
    exact ⟨m, ⟨audited.role, audited.objects, audited.ledger, audited.own⟩, heard, .still rfl rfl⟩
  | wrote active found half =>
    obtain rfl := Option.some.inj (found.symm.trans content)
    have ledger := audited.ledger.write half
    rw [← region] at ledger
    have wrote : Audited (s.wrote _) _ := ⟨audited.role, audited.objects, ledger, audited.own⟩
    exact ⟨_, wrote, wrote.heard active kind, .still rfl rfl⟩
  | passed active found asked room =>
    obtain rfl := Option.some.inj (found.symm.trans content)
    have ledger := (audited.active active).pass
    have counted := audited.own
    rw [Endpoint.held, if_pos active] at counted
    rw [← own] at ledger
    exact ⟨_, ⟨audited.role, audited.objects, ledger, counted⟩,
      fun mode may => asked mode may.1, .still rfl rfl⟩
  | @regained back waiting taken =>
    rw [other] at taken
    have ledger := (audited.waiting waiting).gain taken
    have counted := audited.own
    rw [Endpoint.held, if_neg (by simp [waiting])] at counted
    have regained : Audited (s.regained back) m :=
      ⟨audited.role, audited.objects, ledger, congrArg (· + 1) counted⟩
    exact ⟨m, regained, regained.heard rfl kind, .still rfl rfl⟩
  | elapsed =>
    obtain ⟨m', ledger, advance⟩ := audited.ledger.await
    exact ⟨m', audited.moved ledger advance, fun mode later => heard mode (advance.mayServe later),
      .of_advance advance heard⟩

theorem steps (audited : Audited s m) (heard : Heard kind s m) (steps : Steps kind s t) :
    ∃ m', Audited t m' ∧ Spans kind s m t m' := by
  suffices ∃ m', Audited t m' ∧ Heard kind t m' ∧ Spans kind s m t m' by
    obtain ⟨m', after, -, spans⟩ := this
    exact ⟨m', after, spans⟩
  induction steps with
  | refl => exact ⟨m, audited, heard, .still rfl rfl⟩
  | tail _ step ih =>
    obtain ⟨between, kept, hears, first⟩ := ih
    obtain ⟨after, ended, still, second⟩ := kept.step hears step
    exact ⟨after, ended, still, first.trans second⟩

theorem close (audited : Audited s m) :
    Ends Talk.close s fun _ t => t.connection = s.connection ∧ t.world.peer = s.world.peer ∧
      Audited t m := by
  obtain ⟨same, peer⟩ := s.connection.endpoint.close_keeps s.world
  refine .of_run (t := ⟨s.connection, _⟩) rfl ⟨rfl, peer, audited.role, ?_, ?_, audited.own⟩
  · exact audited.objects.trans (congrArg Crew.objects peer.symm)
  · have ledger := audited.ledger.renamed same
    rw [← peer] at ledger
    exact ledger

/-- What a simulator sets out from: nothing is in any book. -/
theorem opened (s : Space Message) (names : Names) (robot : Robot) (options : Options)
    {plan : List (List Crew.Move)} (new : ∀ moves ∈ plan, ∀ move ∈ moves, move.New)
    (journal : Journal) :
    Audited ⟨.created s names robot options, ⟨Simulator.opened s names robot,
      .start (Connection.created s names robot options).endpoint.objects plan, journal⟩⟩
      (opening robot) := by
  obtain ⟨role, objects, tally, -⟩ := Synced.opened s names robot options plan journal
  refine ⟨role, objects, ⟨tally.afloat, tally.few, new, ?_, fun _ => ?_, fun _ => rfl⟩, rfl⟩
  · exact fun mate member => absurd member List.not_mem_nil
  · have few : 1 + Crew.turns _ _ ≤ 1 := tally.few
    unfold Crew.turns at few
    change 0 = 0 + _
    omega

end Audited

/-- What may happen while a simulator has a connection: a step of its own, a move of a robot, or
that it takes the channel down. -/
inductive Happens (s : Session Crew) : Session Crew → Prop
  | steps {t : Session Crew} : Step (fun _ => True) s t → Happens s t
  | moves {move : Crew.Move} : move.New → Happens s { s with
      world := { s.world with
        peer := (s.world.peer.act s.world.space move).1
        space := (s.world.peer.act s.world.space move).2 } }
  | closes : Happens s (Talk.close.run s).2

abbrev Comes : Session Crew → Session Crew → Prop := Relation.ReflTransGen Happens

theorem Audited.comes (audited : Audited s m) (comes : Comes s t) : ∃ m', Audited t m' := by
  induction comes with
  | refl => exact ⟨m, audited⟩
  | tail _ happens ih =>
    obtain ⟨between, kept⟩ := ih
    cases happens with
    | steps step =>
      obtain ⟨after, ended, -⟩ := kept.step (fun _ _ => trivial) step
      exact ⟨after, ended⟩
    | moves new =>
      obtain ⟨after, ledger, advance⟩ := kept.ledger.move new
      exact ⟨after, kept.moved ledger advance⟩
    | closes => exact ⟨between, kept.close.2.2⟩

theorem Comes.of_steps (steps : Steps (fun _ => True) s t) : Comes s t :=
  Relation.ReflTransGen.mono (fun _ _ => Happens.steps) s t steps

theorem Comes.of_leaves (leaves : Talk.Leaves (fun _ => True) s t) : Comes s t := by
  obtain ⟨u, steps, rfl⟩ := leaves
  exact (Comes.of_steps steps).tail .closes

/-- The counts of a simulator and of the robots on its channel go together. -/
structure Agree (s : Session Crew) : Prop where
  turns : ∀ mate ∈ s.world.peer.mates,
    mate.bridge.program.stats.turns = mate.bridge.endpoint.completed
  modes : ∀ mate ∈ s.world.peer.mates, mate.bridge.program.stats.turns =
    mate.bridge.program.stats.parameterTurns + mate.bridge.program.stats.controllerTurns +
      mate.bridge.program.stats.idleTurns + mate.modes.count .exit
  redundant : ∀ mate ∈ s.world.peer.mates,
    mate.bridge.program.stats.redundantTurns ≤ mate.bridge.program.stats.parameterTurns
  own : s.connection.endpoint.phase = .active →
    s.connection.exchanges = s.connection.endpoint.completed
  -- At any time, what robots gave back the simulator has had back or may yet take.
  balance : s.world.peer.deserted = false → s.world.peer.given =
    s.connection.exchanges + s.world.space.count s.world.peer.objects.robot
  given : s.connection.endpoint.phase = .active → s.world.peer.deserted = false →
    s.connection.exchanges = s.world.peer.given
  lone : ∀ mate, s.world.peer.mates = [mate] → s.connection.endpoint.phase = .active →
    s.world.peer.deserted = false → s.connection.exchanges = mate.bridge.endpoint.completed

theorem Audited.agree (audited : Audited s m) : Agree s := by
  have booked := audited.ledger.booked
  have even (active : s.connection.endpoint.phase = .active)
      (stayed : s.world.peer.deserted = false) : s.connection.exchanges = s.world.peer.given :=
    ((audited.active active).even stayed).symm
  refine ⟨fun mate member => ?_, fun mate member => ?_, fun mate member => ?_, fun active => ?_,
    audited.ledger.given, even, fun mate lone active stayed => ?_⟩
  · obtain ⟨completed, stats⟩ := booked mate member
    exact stats.turns.trans completed.symm
  · obtain ⟨-, turns, parameter, controller, idle, -⟩ := booked mate member
    rw [turns, parameter, controller, idle]
    exact Bridge.length_modes mate.modes
  · exact (booked mate member).stats.redundant
  · have counted := audited.own
    rw [Endpoint.held, if_pos active] at counted
    exact (Nat.succ.inj counted).symm
  · have all := even active stayed
    unfold Crew.given at all
    rw [lone] at all
    exact all

end Simulator

end Lockstep
