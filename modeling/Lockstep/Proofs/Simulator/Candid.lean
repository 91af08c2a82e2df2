import Lockstep.Proofs.Bridge.Fault
import Lockstep.Proofs.Simulator.Turns

/-! Robots that cannot go on say why, and what they say is there to stay.

The robot that fails has the only turn and keeps it. So nobody writes into the
message after it, and nobody else can fail over the same turn.
-/

set_option autoImplicit false

namespace Lockstep

open Channel Message

namespace Bridge

/-- Errors of turns. What goes wrong with the channel itself is never published. -/
def Error.OfTurn : Error → Prop
  | .channel _ => False
  | .parameter _ | .table _ | .robotMismatch _ _ | .unknownMode _ | .tooManyPending _ _
  | .controller _ => True

theorem Program.Cause.ofTurn {p : Program} {input : ToRobot} {e : Error} (cause : p.Cause input e) :
    e.OfTurn := by
  cases cause with
  | robot | mode | parameters | user | controller => trivial
  | request failed =>
    cases refuses_of_respond failed with
    | number | kind | name | valueKind => trivial
    | @table kind name valueKind own _ _ _ refused =>
      obtain ⟨refusal, same⟩ | ⟨_, _, served⟩ :=
        serveRequest_cases _ kind name valueKind own
      · cases same.symm.trans refused
        trivial
      · cases served.symm.trans refused

theorem plain_serve {σ : Type} {b : Bridge} (plain : b.program.Plain) (m : Message)
    (w : World Message σ) : (b.serve m w).1.2.program.Plain := by
  have served : (b.program.serve m).2.program.Plain := plain.serve rfl
  unfold Bridge.serve
  generalize b.program.serve m = ended at served ⊢
  obtain ⟨e | mode, turn⟩ := ended
  · exact served
  · dsimp only at served ⊢
    split
    · exact served
    · exact ⟨served.parameters, served.user⟩

end Bridge

def Message.Tells (m : Message) (e : Bridge.Error) : Prop :=
  ∃ kept, Text.LongestPrefix (faultCapacity - 1) kept e.message ∧
    m.toSimulator.faultText? = some kept

namespace Crew

def Move.Plain : Move → Prop
  | .join _ program => program.Plain
  | .take _ | .serve _ | .leave _ => True

def Plain (crew : Crew) : Prop := ∀ mate ∈ crew.mates, mate.bridge.program.Plain

variable {crew crew' : Crew} {s s' : Space Message} {m : Message} {lead : Nat}

theorem Plain.reseat (plain : crew.Plain) (seat : Nat) {mate : Mate}
    (own : mate.bridge.program.Plain) : (crew.reseat seat mate).Plain := by
  intro other member
  obtain old | rfl := List.mem_or_eq_of_mem_set member
  · exact plain other old
  · exact own

theorem Plain.join (plain : crew.Plain) (names : Names) {program : Bridge.Program}
    (own : program.Plain) : (crew.join names program s).Plain := by
  unfold Crew.join Bridge.connect
  obtain ⟨_, _, _, -, -, -, _, ran⟩ | ⟨_, _, ran⟩ :=
    attach_cases names (Wire.Layout.size Message) (worldOf s)
  · simp only [Effect.run_bind, Effect.run_adapt, ran, Except.mapError, Act.run_note,
      Effect.run_pure]
    split
    · intro mate member
      obtain old | new := List.mem_append.mp member
      · exact plain mate old
      · obtain rfl := List.mem_singleton.mp new
        exact own
    · exact plain
  · simp only [Effect.run_bind, Effect.run_adapt, ran, Except.mapError]
    exact plain

theorem Plain.take (plain : crew.Plain) {seat : Nat} {mate : Mate}
    (own : mate.bridge.program.Plain) : (crew.take seat mate s).1.Plain := by
  unfold Crew.take
  split
  · exact plain
  · split
    · exact plain.reseat seat own
    · exact plain
    · exact plain

theorem Plain.serve (plain : crew.Plain) {seat : Nat} {mate : Mate}
    (own : mate.bridge.program.Plain) : (crew.serve seat mate s).1.Plain := by
  unfold Crew.serve
  split
  · exact plain
  split
  · exact plain.reseat seat own
  next m _ =>
    have served := Bridge.plain_serve own m (worldOf s)
    split
    next ran =>
      rw [ran] at served
      exact plain.reseat seat served
    next ran =>
      rw [ran] at served
      exact plain.reseat seat served

theorem Plain.act (plain : crew.Plain) {move : Move} (joining : move.Plain) :
    (crew.act s move).1.Plain := by
  cases move with
  | join names program => exact plain.join names joining
  | take seat =>
    simp only [Crew.act]
    split
    next found => exact plain.take (plain _ (List.mem_of_getElem? found))
    next => exact plain
  | serve seat =>
    simp only [Crew.act]
    split
    next found => exact plain.serve (plain _ (List.mem_of_getElem? found))
    next => exact plain
  | leave seat =>
    simp only [Crew.act]
    split
    · exact fun mate member => plain mate (List.mem_of_mem_eraseIdx member)
    · exact plain

/-- A crew and a message, while the simulator has `lead` turns itself: if a robot
failed over a turn, the turn is gone and the message has the reason. -/
structure Candid (lead : Nat) (crew : Crew) (s : Space Message) (m : Message) : Prop where
  afloat : crew.Afloat s m
  few : lead + crew.turns s ≤ 1
  plain : crew.Plain
  planned : ∀ moves ∈ crew.plan, ∀ move ∈ moves, move.Plain
  told : ∀ e ∈ crew.raised, e.OfTurn → lead + crew.turns s = 0 ∧ m.Tells e

theorem Candid.quiet_of_holding {seat : Nat} {mate : Mate} (candid : Candid lead crew s m)
    (found : crew.mates[seat]? = some mate) (holding : mate.holding = true) :
    ∀ e ∈ crew.raised, ¬ e.OfTurn := by
  intro e raised ofTurn
  have none := (candid.told e raised ofTurn).1
  have some := held_pos found holding
  unfold turns at none
  omega

theorem Candid.shift (candid : Candid lead crew s m) (outcome : crew.Outcome s m crew' s')
    (plain : crew'.Plain) (content : s'.content? crew.objects.region = some m)
    (raised : ∀ e ∈ crew'.raised, e.OfTurn → e ∈ crew.raised) : Candid lead crew' s' m := by
  have fewer := (outcome.balance candid.afloat).1
  have few := candid.few
  constructor
  case afloat => exact outcome.afloat candid.afloat content
  case few => omega
  case plain => exact plain
  case planned => exact outcome.plan ▸ candid.planned
  case told =>
    intro e member ofTurn
    obtain ⟨none, tells⟩ := candid.told e (raised e member ofTurn) ofTurn
    exact ⟨by omega, tells⟩

theorem Candid.fail {seat : Nat} {mate : Mate} {e : Bridge.Error} {turn : Bridge.Turn}
    (candid : Candid lead crew s m) (found : crew.mates[seat]? = some mate)
    (holding : mate.holding = true) (failed : mate.bridge.program.serve m = (.error e, turn))
    (plain : crew'.Plain) (next : crew' =
      ((crew.reseat seat (mate.fallen { mate.bridge with program := turn.program })).process
        m).blame e) :
    Candid lead crew' (mate.bridge.faulted m turn e s)
      ⟨turn.output.publishFault e.message, m.toRobot⟩ := by
  subst next
  obtain ⟨region, -, -⟩ := (candid.afloat.manned.at found).ids
  have content := Bridge.content?_faulted region candid.afloat.content m turn e
  have lost := turns_fallen candid.few found holding m e turn
  have cause := (Bridge.Program.serve_stays failed nofun).cause e rfl
  have legible := cause.legible (candid.plain mate (List.mem_of_getElem? found))
  constructor
  case afloat => exact Outcome.afloat (.fails found holding failed) candid.afloat content
  case few =>
    rw [lost]
    exact Nat.zero_le 1
  case plain => exact plain
  case planned => exact candid.planned
  case told =>
    intro e' member ofTurn
    obtain old | new := List.mem_append.mp member
    · exact absurd ofTurn (candid.quiet_of_holding found holding e' old)
    · rw [List.mem_singleton.mp new]
      exact ⟨lost, faultText?_publishFault turn.output legible⟩

theorem Candid.act (candid : Candid lead crew s m) {move : Move} (joining : move.Plain) :
    ∃ m', Candid lead (crew.act s move).1 (crew.act s move).2 m' ∧
      (crew.act s move).1.objects = crew.objects := by
  have few := candid.few
  have room : s.count crew.objects.robot < Space.maxCount := by
    unfold turns at few
    unfold Space.maxCount
    omega
  have outcome := act_outcome candid.afloat.manned candid.afloat.content room move
  have plain := candid.plain.act (s := s) joining
  generalize crew.act s move = next at outcome plain ⊢
  obtain ⟨crew', s'⟩ := next
  dsimp only at outcome plain ⊢
  have objects := (outcome.manned candid.afloat.manned).2
  have here := candid.afloat.content
  cases outcome with
  | idles => exact ⟨m, candid, objects⟩
  | complains cause =>
    refine ⟨m, candid.shift (.complains cause) plain here ?_, objects⟩
    intro e member ofTurn
    obtain old | new := List.mem_append.mp member
    · exact old
    · rw [List.mem_singleton.mp new] at ofTurn
      exact ofTurn.elim
  | joins role same =>
    exact ⟨m, candid.shift (.joins role same) plain here fun _ member _ => member, objects⟩
  | leaves found =>
    exact ⟨m, candid.shift (.leaves found) plain here fun _ member _ => member, objects⟩
  | takes found free waiting taken =>
    have content := (Space.content?_take taken _).trans here
    exact ⟨m, candid.shift (.takes found free waiting taken) plain content fun _ member _ => member,
      objects⟩
  | fails found holding failed =>
    exact ⟨_, candid.fail found holding failed plain rfl, objects⟩
  | @serves seat mate mode turn program found holding went recorded =>
    obtain ⟨region, -, -⟩ := (candid.afloat.manned.at found).ids
    have content := Bridge.content?_answered region here m turn
    have outcome : crew.Outcome s m ((crew.reseat seat
        (mate.served ⟨mate.bridge.endpoint.gaveTurn, program⟩ mode)).process m)
        (mate.bridge.answered m turn s) := .serves found holding went recorded
    have fewer := (outcome.balance candid.afloat).1
    refine ⟨⟨turn.output, m.toRobot⟩, ⟨outcome.afloat candid.afloat content, by omega, plain,
      candid.planned, fun e member ofTurn => ?_⟩, objects⟩
    exact absurd ofTurn (candid.quiet_of_holding found holding e member)

theorem Candid.acts (candid : Candid lead crew s m) {moves : List Move}
    (joining : ∀ move ∈ moves, move.Plain) :
    ∃ m', Candid lead (acts moves crew s).1 (acts moves crew s).2 m' ∧
      (acts moves crew s).1.objects = crew.objects := by
  apply acts_keep (P := fun c t => ∃ m', Candid lead c t m' ∧ c.objects = crew.objects)
  · exact ⟨m, candid, rfl⟩
  · rintro move member c t ⟨between, kept, first⟩
    obtain ⟨after, ended, second⟩ := kept.act (joining move member)
    exact ⟨after, ended, second.trans first⟩

theorem Candid.relabel (candid : Candid lead crew s m) {plan : List (List Move)}
    (planned : ∀ moves ∈ plan, ∀ move ∈ moves, move.Plain) (late : Bool) :
    Candid lead { crew with plan := plan, late := late } s m := by
  obtain ⟨afloat, few, plain, -, told⟩ := candid
  exact ⟨afloat.relabel plan late, few, plain, planned, told⟩

theorem Candid.await (candid : Candid lead crew s m) :
    ∃ m', Candid lead (crew.await s).1 (crew.await s).2 m' ∧
      (crew.await s).1.objects = crew.objects := by
  have joining := planned_headD candid.planned
  have rest : ∀ moves ∈ crew.plan.tail, ∀ move ∈ moves, move.Plain := fun moves member =>
    candid.planned moves (List.mem_of_mem_tail member)
  obtain ⟨m', after, objects⟩ := (candid.relabel rest crew.late).acts joining
  exact ⟨m', after.relabel after.planned _, objects⟩

theorem Candid.quiet (candid : Candid 1 crew s m) : ∀ e ∈ crew.raised, ¬ e.OfTurn := by
  intro e raised ofTurn
  have none := (candid.told e raised ofTurn).1
  omega

theorem Candid.hand (candid : Candid 1 crew s m) (m' : Message) :
    Candid 0 crew ((s.setContent crew.objects.region m').post crew.objects.simulator) m' := by
  obtain ⟨afloat, moved⟩ := candid.afloat.hand m'
  have few := candid.few
  constructor
  case afloat => exact afloat
  case few => omega
  case plain => exact candid.plain
  case planned => exact candid.planned
  case told => exact fun e raised ofTurn => absurd ofTurn (candid.quiet e raised)

theorem Candid.gain (candid : Candid 0 crew s m) (taken : s.take? crew.objects.robot = some s') :
    Candid 1 crew s' m := by
  obtain ⟨afloat, moved⟩ := candid.afloat.gain taken
  have few := candid.few
  constructor
  case afloat => exact afloat
  case few => omega
  case plain => exact candid.plain
  case planned => exact candid.planned
  case told =>
    intro e raised ofTurn
    have none := (candid.told e raised ofTurn).1
    omega

/-- One wait of the simulator: the crew moves as planned, unless the turn is there already. -/
theorem Candid.wait {w : World Message Crew} (candid : Candid 0 w.peer w.space m) :
    ∃ m', Candid (w.await w.peer.objects.robot).1.toNat (w.await w.peer.objects.robot).2.peer
        (w.await w.peer.objects.robot).2.space m' ∧
      (w.await w.peer.objects.robot).2.peer.objects = w.peer.objects := by
  unfold World.await
  cases here : w.space.take? w.peer.objects.robot with
  | some t => exact ⟨m, candid.gain here, rfl⟩
  | none =>
    obtain ⟨m', after, objects⟩ := candid.await
    simp only [Peer.move]
    generalize w.peer.await w.space = moved at after objects ⊢
    obtain ⟨crew, s⟩ := moved
    dsimp only at after objects ⊢
    cases there : s.take? w.peer.objects.robot with
    | some t =>
      rw [← objects] at there
      exact ⟨m', after.gain there, objects⟩
    | none => exact ⟨m', after, objects⟩

end Crew

end Lockstep
