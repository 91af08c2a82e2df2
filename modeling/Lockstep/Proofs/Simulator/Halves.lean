import Lockstep.Proofs.Bridge.History
import Lockstep.Proofs.Bridge.Mapped
import Lockstep.Proofs.Bridge.Output
import Lockstep.Proofs.Channel.Contents
import Lockstep.Proofs.Simulator.Opening
import Lockstep.Proofs.Simulator.Steps

/-! Each of the two peers writes its own half of the message, and nothing else.

Nothing in the message's type says so: both peers have the whole of it in their
hands. What either does, for however long, comes to writes that leave the other
half alone and to moves of its peer.
-/

set_option autoImplicit false

namespace Lockstep

open Message Effect

variable {σ : Type} [Channel.Peer Message σ]

namespace Channel

/-- A process does something that leaves a part of its message alone, and all regions but its
own; or else its peer moves. -/
inductive World.Keeps {β : Type} (region : Nat) (part : Message → β) (w : World Message σ) :
    World Message σ → Prop
  | works {w' : World Message σ} (peer : w'.peer = w.peer)
      (elsewhere : ∀ id, id ≠ region → w'.space.content? id = w.space.content? id)
      (half : (w'.space.content? region).map part = (w.space.content? region).map part) :
      Keeps region part w w'
  | waits {w' : World Message σ} (moved : (w'.peer, w'.space) = Peer.move w.peer w.space) :
      Keeps region part w w'

abbrev World.Keeping {β : Type} (region : Nat) (part : Message → β) :
    World Message σ → World Message σ → Prop :=
  Relation.ReflTransGen (World.Keeps region part)

theorem Endpoint.keeping_awaitForever {β : Type} (e : Endpoint) (region : Nat) (part : Message → β)
    (w : World Message σ) : World.Keeping region part w (e.awaitForever.run w).2 := by
  have takes {w : World Message σ} {t : Space Message} {id : Nat}
      (taken : w.space.take? id = some t) : World.Keeps region part w (w.setSpace t) :=
    .works rfl (fun other _ => Space.content?_take taken other)
      (congrArg (Option.map part) (Space.content?_take taken region))
  by_cases waiting : e.phase = .waiting
  · rw [e.run_awaitForever_of_waiting w waiting]
    unfold World.await
    cases here : w.space.take? e.other.id with
    | some t => exact .single (takes here)
    | none =>
      dsimp only
      have moves (journal : Journal) : World.Keeps region part w
          ⟨(Peer.move w.peer w.space).2, (Peer.move w.peer w.space).1, journal⟩ := .waits rfl
      cases there : (Peer.move w.peer w.space).2.take? e.other.id with
      | some t => exact .tail (.single (moves w.journal)) (takes there)
      | none => exact .single (moves w.journal)
  · rw [e.run_awaitForever_of_active w waiting]

end Channel

open Channel

namespace Bridge

theorem keeping_step (b : Bridge) (w : World Message σ) :
    World.Keeping b.endpoint.region.id Message.toRobot w (b.step w).2 := by
  obtain ⟨confined, peer⟩ := step_confined b w
  exact .tail (b.endpoint.keeping_awaitForever _ _ w) (.works peer confined.elsewhere confined.half)

theorem steps_robot (interludes : List (World Message σ → World Message σ)) (b : Bridge)
    (w : World Message σ) :
    (steps interludes b w).2.1.program.robot = b.program.robot := by
  induction interludes generalizing b w with
  | nil => rfl
  | cons others rest ih =>
    obtain ⟨confined, -⟩ := step_confined b (others w)
    exact (ih _ _).trans confined.robot

theorem step_signs {b : Bridge} {w : World Message σ} {mode : Mode}
    (went : (b.step w).1.1 = .ok mode) :
    ∃ m, (b.step w).2.space.content? b.endpoint.region.id = some m ∧
      m.toSimulator.robotCode = b.program.robot.code := by
  obtain ⟨confined, -⟩ := step_confined b w
  have half := confined.half
  cases waited : (b.endpoint.awaitForever.run w).2.space.content? b.endpoint.region.id with
  | none =>
    unfold step at went
    rcases taken : b.endpoint.awaitForever.run w with ⟨e | e, w'⟩
    · rw [taken] at went
      cases went
    · obtain rfl := awaitForever_ok taken
      rw [taken] at waited went
      have missing : b.endpoint.tookTurn.snapshot w'.space =
          .error (.regionNotFound b.endpoint.names.region) := by
        unfold Endpoint.snapshot
        rw [show w'.space.content? b.endpoint.tookTurn.region.id = none from waited]
        rfl
      simp only [missing] at went
      cases went
  | some before =>
    rw [waited] at half
    obtain ⟨m, found, -⟩ := Option.map_eq_some_iff.mp half
    refine ⟨m, found, ?_⟩
    obtain signed | ⟨-, e, failed⟩ := (confined.writes before m waited found).signed
    · exact signed
    · cases went.symm.trans failed

end Bridge

namespace Simulator

/-- Nothing that a simulator does over its connection touches the robot's half. -/
theorem Session.Step.keeps {kind : Mode → Prop} {s t : Session σ} (step : s.Step kind t) :
    t.connection.endpoint.region = s.connection.endpoint.region ∧
      World.Keeps s.connection.endpoint.region.id Message.toSimulator s.world t.world := by
  cases step with
  | noted r => exact ⟨rfl, .works rfl (fun _ _ => rfl) rfl⟩
  | numbered requests => exact ⟨rfl, .works rfl (fun _ _ => rfl) rfl⟩
  | @wrote m active found half =>
    refine ⟨rfl, .works rfl (fun id other => Space.content?_setContent_other _ other _) ?_⟩
    have now := Space.content?_setContent found ⟨m.toSimulator, half⟩
    exact (congrArg (Option.map Message.toSimulator) now).trans
      (congrArg (Option.map Message.toSimulator) found).symm
  | passed active found asked room => exact ⟨rfl, .works rfl (fun _ _ => rfl) rfl⟩
  | regained waiting taken =>
    refine ⟨rfl, .works rfl (fun id _ => Space.content?_take taken id) ?_⟩
    exact congrArg (Option.map Message.toSimulator) (Space.content?_take taken _)
  | elapsed => exact ⟨rfl, .waits rfl⟩

theorem Session.Steps.keeping {kind : Mode → Prop} {s t : Session σ}
    (steps : Session.Steps kind s t) :
    t.connection.endpoint.region = s.connection.endpoint.region ∧
      World.Keeping s.connection.endpoint.region.id Message.toSimulator s.world t.world := by
  induction steps with
  | refl => exact ⟨rfl, .refl⟩
  | tail _ step ih =>
    obtain ⟨region, keeping⟩ := ih
    obtain ⟨same, keeps⟩ := step.keeps
    exact ⟨same.trans region, keeping.tail (region ▸ keeps)⟩

omit [Channel.Peer Message σ] in
theorem Connection.furnished_create (names : Names) (robot : Robot) (options : Options)
    (exclusive : Bool) (w : World Message σ) : w.Furnished Message.toSimulator
      ((Connection.create names robot options exclusive).run w).2 := by
  have endpoint := Channel.furnished_create Message.toSimulator (σ := σ) names
    (Wire.Layout.size Message) exclusive w
  unfold Ends at endpoint
  rcases made : (Endpoint.create names (Wire.Layout.size Message) exclusive).run w with ⟨e | e, v⟩
  · unfold Connection.create
    rw [run_bind, made]
    rw [made] at endpoint
    exact endpoint
  obtain ⟨journal, ran⟩ : ∃ journal, (Connection.create names robot options exclusive).run w =
      (.ok (.created w.space names robot options), ⟨opened w.space names robot, w.peer, journal⟩) :=
    Connection.run_create_of_endpoint made
  obtain ⟨-, space, -⟩ := Channel.create_ok made
  have blank : v.space.content? w.space.regions.size = some default := by
    rw [space]
    exact content?_withChannel _ _ _
  have opening_other {id : Nat} (other : id ≠ w.space.regions.size) :
      (opened w.space names robot).content? id = v.space.content? id := by
    rw [space]
    exact Space.content?_setContent_other _ other _
  have free : w.space.content? w.space.regions.size = none := by simp [Space.content?]
  rw [made] at endpoint
  rw [ran]
  refine ⟨rfl, fun id content found => ?_, fun id content absent found => ?_⟩
  · have other : id ≠ w.space.regions.size := by
      rintro rfl
      cases free.symm.trans found
    exact (opening_other other).trans (endpoint.kept id content found)
  · by_cases new : id = w.space.regions.size
    · subst new
      rw [space] at blank
      cases found.symm.trans (Space.content?_setContent blank (opening robot))
      rfl
    · exact endpoint.fresh id content absent ((opening_other new).symm.trans found)

/-- Each peer writes its own half of the message only. A robot leaves what the simulator writes
alone in every step, however that ends, and in its own half touches the response only to answer
a new request, commands and drawing only when it runs its controller, and the fault text
only when it fails; the turns that it hands back bear its own code. Crashes, which
go by bytes, leave the other half alone as well. A simulator leaves what the robot writes alone when
it creates a channel and in whatever it does over it. -/
theorem own_half_only :
    (∀ (b : Bridge) (w : World Message σ),
      World.Keeping b.endpoint.region.id Message.toRobot w (b.step w).2 ∧
      b.Confined (b.endpoint.awaitForever.run w).2.space (b.step w).1.1 (b.step w).1.2
        (b.step w).2.space) ∧
    (∀ (endpoint : Endpoint) (robot : Robot) (controller : Controller)
      (parameters : Parameter.Table) (interludes : List (World Message σ → World Message σ))
      (w v : World Message σ) (mode : Mode),
      let b := (Bridge.steps interludes ⟨endpoint, .start robot controller parameters⟩ w).2.1
      (b.step v).1.1 = .ok mode →
      ∃ m, (b.step v).2.space.content? b.endpoint.region.id = some m ∧
        m.toSimulator.robotCode = robot.code) ∧
    (∀ (memory : Bridge.Memory) (target : Option Nat) (crash : Bridge.Crash) (id : Nat),
      memory.Mapped →
      (Wire.Layout.decode (memory.crashed target crash id) : Message).toRobot =
        (Wire.Layout.decode (memory id) : Message).toRobot ∧
      (memory.crashed target crash id).take Bridge.faultOffset =
        (memory id).take Bridge.faultOffset ∧
      (target ≠ some id → memory.crashed target crash id = memory id)) ∧
    (∀ (calls : List (Call σ)) (s : Session σ),
      World.Keeping s.connection.endpoint.region.id Message.toSimulator s.world
        (Call.run calls s).world) ∧
    (∀ (names : Names) (robot : Robot) (options : Options) (exclusive : Bool)
      (w : World Message σ), w.Furnished Message.toSimulator
        ((Connection.create names robot options exclusive).run w).2) := by
  let anything : Mode → Prop := fun _ => True
  have any (mode : Mode) : anything mode := trivial
  refine ⟨fun b w => ⟨b.keeping_step w, (b.step_confined w).1⟩, ?_, ?_, ?_,
    Connection.furnished_create⟩
  · intro endpoint robot controller parameters interludes w v mode b went
    obtain ⟨m, found, signed⟩ := Bridge.step_signs went
    have launched := Bridge.steps_robot interludes
      ⟨endpoint, .start robot controller parameters⟩ w
    exact ⟨m, found, signed.trans (congrArg Robot.code launched)⟩
  · intro memory target crash id mapped
    obtain ⟨half, before, -, other⟩ := Bridge.Memory.crashed_spares mapped target crash id
    exact ⟨half, before, other⟩
  · exact fun calls s => (Call.steps_run any calls s).keeping.2

/-- A simulator that hands over a message as it is after creation. -/
def probes (w : World Message Unit) : World Message Unit :=
  w.setSpace ((w.space.setContent 0 (opening .miniCheetah)).post 1)

def probed : (Except Bridge.Error Mode × Bridge) × World Message Unit :=
  let robot : Bridge := ⟨.attached .standard (Wire.Layout.size Message) 0 0 1,
    .start .miniCheetah .passive .robot⟩
  let (_, b, w) := Bridge.steps [probes] robot Bridge.opened
  b.step (probes w)

def blankMemory : Bridge.Memory := fun _ => .replicate (Wire.Layout.size Message) 0

/-- It signs that turn too, and a crash in the one region stays out of the other. -/
theorem idle_turns_signed : probed.1.1 = .ok .idle ∧
    (∃ m, probed.2.space.content? 0 = some m ∧
      m.toSimulator.robotCode = Robot.miniCheetah.code) ∧
    blankMemory.Mapped ∧ blankMemory.crashed (some 0) (.panic "fault") 1 = blankMemory 1 := by
  obtain ⟨-, signs, spares, -⟩ := own_half_only (σ := Unit)
  have went : probed.1.1 = .ok .idle := by decide +kernel
  have mapped : blankMemory.Mapped := fun _ => Nat.le_of_eq List.length_replicate.symm
  have signed := signs (.attached .standard (Wire.Layout.size Message) 0 0 1) .miniCheetah .passive
    .robot [probes] Bridge.opened _ .idle went
  exact ⟨went, signed, mapped, (spares blankMemory (some 0) (.panic "fault") 1 mapped).2.2
    (by decide)⟩

end Simulator

end Lockstep
