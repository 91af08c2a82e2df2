import Lockstep.Proofs.Simulator.Turns

/-! What a crew leaves to its simulator, whatever it does during a wait.

A simulator and its crew share one turn at most. Before a robot gives it back it
has settled the request that the message carries, and no request is set about
twice: a robot that fails over one keeps the turn for good.
-/

set_option autoImplicit false

namespace Lockstep.Crew

open Channel Message

/-- A crew and a message, while the simulator has `lead` turns itself. -/
structure Tally (lead : Nat) (crew : Crew) (s : Space Message) (m : Message) : Prop where
  afloat : crew.Afloat s m
  few : lead + crew.turns s ≤ 1
  whole : crew.Loyal → lead + crew.turns s = 1
  -- A request that waits for its answer is not on its way back.
  standing : m.Settled ∨ m.Pending ∧ lead = 0 ∧ s.count crew.objects.robot = 0
  own : ∀ e ∈ crew.raised, ¬ e.Breach
  silent : crew.raised = [] → m.toSimulator.faultText? = none
  once : crew.processed.Nodup
  -- Numbers beyond the last response belong to robots that kept the turn.
  seen : (∀ n ∈ crew.processed, n ≤ m.toSimulator.response.number) ∨ lead + crew.turns s = 0

variable {lead : Nat} {crew crew' : Crew} {s s' : Space Message} {m m' : Message}

theorem Tally.stands (tally : Tally lead crew s m) : m.Standing := by
  obtain settled | ⟨pending, -⟩ := tally.standing
  · exact .inl settled
  · exact .inr pending

theorem due_of_settled (settled : m.Settled) : due m = false := by
  have same := settled.number
  simp [due, same]

theorem Tally.alone {seat : Nat} {mate : Mate} (tally : Tally lead crew s m)
    (found : crew.mates[seat]? = some mate) (holding : mate.holding = true) :
    ∀ n ∈ crew.processed, n ≤ m.toSimulator.response.number := by
  obtain seen | none := tally.seen
  · exact seen
  · have some := held_pos found holding
    unfold turns at none
    omega

/-- Setting about a request that is due is something new. -/
theorem Tally.process_spec {seat : Nat} {mate : Mate} (tally : Tally lead crew s m)
    (found : crew.mates[seat]? = some mate) (holding : mate.holding = true) :
    (crew.process m).processed.Nodup ∧
      ∀ n ∈ (crew.process m).processed, n ≤ m.toRobot.request.number := by
  have seen := tally.alone found holding
  unfold process
  obtain settled | ⟨pending, -⟩ := tally.standing
  · rw [due_of_settled settled, ← settled.number]
    exact ⟨tally.once, seen⟩
  · have fresh : m.toRobot.request.number ∉ crew.processed := fun member =>
      UInt64.not_le.mpr pending.more (seen _ member)
    cases asked : due m with
    | false =>
      exact ⟨tally.once, fun n member => UInt64.le_trans (seen n member)
        (UInt64.le_of_lt pending.more)⟩
    | true =>
      refine ⟨?_, fun n member => ?_⟩
      · simp only [if_true]
        exact List.nodup_append.mpr ⟨tally.once, by simp, by
          intro n member other new same
          rw [List.mem_singleton.mp new] at same
          exact fresh (same ▸ member)⟩
      · simp only [if_true] at member
        obtain old | new := List.mem_append.mp member
        · exact UInt64.le_trans (seen n old) (UInt64.le_of_lt pending.more)
        · rw [List.mem_singleton.mp new]
          exact UInt64.le_refl _

theorem Tally.shift (tally : Tally lead crew s m) (outcome : crew.Outcome s m crew' s')
    (content : s'.content? crew.objects.region = some m)
    (robot : s'.count crew.objects.robot = s.count crew.objects.robot)
    (raised : crew'.raised = crew.raised ∨ ∃ cause, crew'.raised = crew.raised ++ [.channel cause])
    (processed : crew'.processed = crew.processed) : Tally lead crew' s' m := by
  have afloat := outcome.afloat tally.afloat content
  obtain ⟨fewer, balanced⟩ := outcome.balance tally.afloat
  obtain ⟨-, objects⟩ := outcome.manned tally.afloat.manned
  have few := tally.few
  refine ⟨afloat, by omega, ?_, ?_, ?_, ?_, ?_, ?_⟩
  · intro loyal
    obtain ⟨before, same⟩ := balanced loyal
    rw [same]
    exact tally.whole before
  · rw [objects, robot]
    exact tally.standing
  · obtain same | ⟨cause, more⟩ := raised
    · rw [same]
      exact tally.own
    · rw [more]
      intro e member
      obtain old | new := List.mem_append.mp member
      · exact tally.own e old
      · rw [List.mem_singleton.mp new]
        exact id
  · obtain same | ⟨cause, more⟩ := raised
    · rw [same]
      exact tally.silent
    · rw [more]
      intro none
      simp at none
  · rw [processed]
    exact tally.once
  · rw [processed]
    refine tally.seen.imp_right fun none => ?_
    omega

theorem Tally.fail {seat : Nat} {mate : Mate} {e : Bridge.Error} {turn : Bridge.Turn}
    (tally : Tally lead crew s m) (found : crew.mates[seat]? = some mate)
    (holding : mate.holding = true) (failed : mate.bridge.program.serve m = (.error e, turn)) :
    Tally lead
      (((crew.reseat seat (mate.fallen { mate.bridge with program := turn.program })).process
        m).blame e)
      (mate.bridge.faulted m turn e s) ⟨turn.output.publishFault e.message, m.toRobot⟩ := by
  have outcome : crew.Outcome s m _ _ := .fails found holding failed
  obtain ⟨own, kept⟩ := Bridge.Program.serve_fails tally.stands failed
  obtain ⟨once, -⟩ := tally.process_spec found holding
  obtain ⟨region, -, -⟩ := (tally.afloat.manned.at found).ids
  have content := Bridge.content?_faulted region tally.afloat.content m turn e
  have afloat := outcome.afloat tally.afloat content
  have lost := turns_fallen tally.few found holding m e turn
  refine ⟨afloat, by omega, fun loyal => loyal.of_blame.elim, ?_, ?_, ?_, once, .inr lost⟩
  · exact tally.standing.imp (·.reply kept) fun ⟨pending, rest⟩ => ⟨pending.reply kept, rest⟩
  · intro cause member
    obtain old | new := List.mem_append.mp member
    · exact tally.own cause old
    · rw [List.mem_singleton.mp new]
      exact own
  · intro none
    have none : crew.raised ++ [e] = [] := none
    simp at none

theorem Tally.serve {seat : Nat} {mate : Mate} {mode : Mode} {turn : Bridge.Turn}
    (tally : Tally lead crew s m) (found : crew.mates[seat]? = some mate)
    (holding : mate.holding = true) (went : mate.bridge.program.serve m = (.ok mode, turn))
    {program : Bridge.Program} (recorded : program.stats = turn.program.stats.record mode .zero) :
    Tally lead
      ((crew.reseat seat (mate.served ⟨mate.bridge.endpoint.gaveTurn, program⟩ mode)).process m)
      (mate.bridge.answered m turn s) ⟨turn.output, m.toRobot⟩ := by
  have outcome : crew.Outcome s m ((crew.reseat seat
      (mate.served ⟨mate.bridge.endpoint.gaveTurn, program⟩ mode)).process m)
      (mate.bridge.answered m turn s) := .serves found holding went recorded
  obtain ⟨-, settled, text⟩ := Bridge.Program.serve_settles tally.stands went
  obtain ⟨once, seen⟩ := tally.process_spec found holding
  obtain ⟨region, -, -⟩ := (tally.afloat.manned.at found).ids
  have content := Bridge.content?_answered region tally.afloat.content m turn
  have afloat := outcome.afloat tally.afloat content
  obtain ⟨fewer, balanced⟩ := outcome.balance tally.afloat
  have few := tally.few
  refine ⟨afloat, by omega, ?_, .inl settled, tally.own, ?_, once, .inl ?_⟩
  · intro loyal
    obtain ⟨before, same⟩ := balanced loyal
    rw [same]
    exact tally.whole before
  · intro none
    rw [text]
    exact tally.silent none
  · rw [settled.number]
    exact seen

/-- What any number of moves comes to, besides the tally. Turns that were given
back lie in the robot's semaphore or are with the simulator. -/
structure Onward (lead : Nat) (crew : Crew) (s : Space Message) (m : Message) (lead' : Nat)
    (crew' : Crew) (s' : Space Message) (m' : Message) : Prop where
  half : m'.toRobot = m.toRobot
  objects : crew'.objects = crew.objects
  regionNames : s'.regionNames = s.regionNames
  semaphoreNames : s'.semaphoreNames = s.semaphoreNames
  late : crew'.late = false → crew.late = false
  loyal : crew'.Loyal → crew.Loyal
  versed : crew'.Loyal → crew.versed = true → crew'.versed = true
  asked : crew'.Loyal → ∀ mode, m.mode? = some mode →
    crew'.served mode + (lead + s.count crew.objects.robot) =
      crew.served mode + (lead' + s'.count crew'.objects.robot)
  other : crew'.Loyal → ∀ mode, m.mode? ≠ some mode → crew'.served mode = crew.served mode

namespace Onward

variable {lead' lead'' : Nat} {crew'' : Crew} {s'' : Space Message} {m'' : Message}

theorem refl (lead : Nat) (crew : Crew) (s : Space Message) (m : Message) :
    Onward lead crew s m lead crew s m :=
  ⟨rfl, rfl, rfl, rfl, id, id, fun _ versed => versed, fun _ _ _ => rfl, fun _ _ _ => rfl⟩

theorem trans (first : Onward lead crew s m lead' crew' s' m')
    (second : Onward lead' crew' s' m' lead'' crew'' s'' m'') :
    Onward lead crew s m lead'' crew'' s'' m'' := by
  have mode : m'.mode? = m.mode? := by
    unfold mode?
    rw [first.half]
  refine ⟨second.half.trans first.half, second.objects.trans first.objects,
    second.regionNames.trans first.regionNames, second.semaphoreNames.trans first.semaphoreNames,
    ?_, ?_, ?_, ?_, ?_⟩
  · exact fun prompt => first.late (second.late prompt)
  · exact fun loyal => first.loyal (second.loyal loyal)
  · exact fun loyal versed => second.versed loyal (first.versed (second.loyal loyal) versed)
  · intro loyal asked right
    have before := first.asked (second.loyal loyal) asked right
    have after := second.asked loyal asked (mode.trans right)
    omega
  · intro loyal asked wrong
    rw [second.other loyal asked (mode ▸ wrong), first.other (second.loyal loyal) asked wrong]

end Onward

theorem Tally.move (tally : Tally lead crew s m) (move : Move) :
    ∃ m', Tally lead (crew.act s move).1 (crew.act s move).2 m' ∧
      Onward lead crew s m lead (crew.act s move).1 (crew.act s move).2 m' := by
  have room : s.count crew.objects.robot < Space.maxCount := by
    have few := tally.few
    unfold turns at few
    unfold Space.maxCount
    omega
  have outcome := act_outcome tally.afloat.manned tally.afloat.content room move
  generalize crew.act s move = next at outcome ⊢
  obtain ⟨crew', s'⟩ := next
  dsimp only at outcome ⊢
  have onward {m' : Message} (half : m'.toRobot = m.toRobot) (late : crew'.late = crew.late) :
      Onward lead crew s m lead crew' s' m' := by
    obtain ⟨-, objects⟩ := outcome.manned tally.afloat.manned
    refine ⟨half, objects, outcome.names.1, outcome.names.2, fun prompt => late ▸ prompt,
      fun loyal => ((outcome.balance tally.afloat).2 loyal).1,
      fun loyal versed => outcome.versed loyal versed, ?_, ?_⟩
    · intro loyal mode right
      have same := (outcome.served tally.afloat tally.stands loyal mode).1 right
      rw [objects]
      omega
    · intro loyal mode wrong
      exact (outcome.served tally.afloat tally.stands loyal mode).2 wrong
  cases outcome with
  | idles => exact ⟨m, tally, onward rfl rfl⟩
  | complains cause =>
    exact ⟨m, tally.shift (.complains cause) tally.afloat.content rfl (.inr ⟨cause, rfl⟩) rfl,
      onward rfl rfl⟩
  | joins role objects =>
    exact ⟨m, tally.shift (.joins role objects) tally.afloat.content rfl (.inl rfl) rfl,
      onward rfl rfl⟩
  | leaves found =>
    exact ⟨m, tally.shift (.leaves found) tally.afloat.content rfl (.inl rfl) rfl,
      onward rfl rfl⟩
  | takes found holding waiting taken =>
    have content := (Space.content?_take taken _).trans tally.afloat.content
    have kept := (tally.afloat.takes found taken).2
    exact ⟨m, tally.shift (.takes found holding waiting taken) content kept (.inl rfl) rfl,
      onward rfl rfl⟩
  | fails found holding failed =>
    exact ⟨_, tally.fail found holding failed, onward rfl rfl⟩
  | serves found holding went recorded =>
    exact ⟨_, tally.serve found holding went recorded, onward rfl rfl⟩

theorem Tally.acts (tally : Tally lead crew s m) (moves : List Move) :
    ∃ m', Tally lead (acts moves crew s).1 (acts moves crew s).2 m' ∧
      Onward lead crew s m lead (acts moves crew s).1 (acts moves crew s).2 m' := by
  apply acts_keep (P := fun c t => ∃ m', Tally lead c t m' ∧ Onward lead crew s m lead c t m')
  · exact ⟨m, tally, .refl _ _ _ _⟩
  · rintro move - c t ⟨between, kept, first⟩
    obtain ⟨after, ended, second⟩ := kept.move move
    exact ⟨after, ended, first.trans second⟩

end Lockstep.Crew
