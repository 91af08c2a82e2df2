import Lockstep.Proofs.Simulator.Calls

/-! One wait after the other, for a turn that was handed over.

While it waits a simulator does nothing else, so where it stands after some
waits is told by its robot alone. What it notes between them makes no difference.
-/

set_option autoImplicit false

namespace Lockstep

open Channel Message Parameter Effect

namespace Channel.World

variable {α σ : Type}

/-- Worlds that differ in nothing but what was noted. -/
structure Alike (w t : World α σ) : Prop where
  space : t.space = w.space
  peer : t.peer = w.peer

variable [Peer α σ]

def awaits (w : World α σ) (id : Nat) : Nat → World α σ
  | 0 => w
  | n + 1 => ((w.awaits id n).await id).2

theorem Alike.await {w t : World α σ} (alike : w.Alike t) (id : Nat) :
    (t.await id).1 = (w.await id).1 ∧ (w.await id).2.Alike (t.await id).2 := by
  obtain ⟨space, peer⟩ := alike
  unfold World.await
  rw [space, peer]
  cases w.space.take? id with
  | some s => exact ⟨rfl, rfl, peer⟩
  | none =>
    dsimp only
    cases (Peer.move w.peer w.space).2.take? id with
    | some s => exact ⟨rfl, rfl, rfl⟩
    | none => exact ⟨rfl, rfl, rfl⟩

end Channel.World

namespace Simulator

variable {σ : Type}

theorem Talk.checkResponse_ne {r : Message.Response} {number number' : UInt64} {kind : RequestKind}
    {name name' : String} {fault? : Option String} :
    Talk.checkResponse r number kind name ≠ .error (.notAcknowledged name' number' fault?) := by
  intro failed
  unfold Talk.checkResponse at failed
  split at failed
  · cases failed
  obtain failed | ⟨echoed, -, rest⟩ := bind_error failed
  · obtain ⟨_, -, same⟩ := mapError_error failed
    cases same
  split at rest
  · cases rest
  · obtain ⟨_, -, same⟩ := mapError_error rest
    cases same

namespace Session

structure Alike (s t : Session σ) : Prop where
  connection : t.connection = s.connection
  world : s.world.Alike t.world

theorem Alike.trans {s t u : Session σ} (first : s.Alike t) (second : t.Alike u) : s.Alike u :=
  ⟨second.connection.trans first.connection, second.world.space.trans first.world.space,
    second.world.peer.trans first.world.peer⟩

theorem Alike.counted {s t : Session σ} (alike : s.Alike t) : s.counted.Alike t.counted := by
  refine ⟨?_, alike.world⟩
  unfold Session.counted
  rw [alike.connection]

def fault? (s : Session σ) : Option String :=
  (s.world.space.content? s.connection.endpoint.region.id).bind (·.toSimulator.faultText?)

def reported (s : Session σ) (number : UInt64) (kind : RequestKind) (name : String) :
    Except Error Value :=
  match s.world.space.content? s.connection.endpoint.region.id with
  | some m => Talk.checkResponse m.toSimulator.response number kind name
  | none => .error (.channel (.regionNotFound s.connection.endpoint.names.region))

theorem Alike.fault? {s t : Session σ} (alike : s.Alike t) : t.fault? = s.fault? := by
  unfold Session.fault?
  rw [alike.connection, alike.world.space]

theorem reported_ne (s : Session σ) {number number' : UInt64} {kind : RequestKind}
    {name name' : String} {fault? : Option String} :
    s.reported number kind name ≠ .error (.notAcknowledged name' number' fault?) := by
  unfold Session.reported
  split
  · exact Talk.checkResponse_ne
  · nofun

theorem Alike.reported {s t : Session σ} (alike : s.Alike t) (number : UInt64) (kind : RequestKind)
    (name : String) : t.reported number kind name = s.reported number kind name := by
  unfold Session.reported
  rw [alike.connection, alike.world.space]

variable [Peer Message σ]

def awaits (s : Session σ) (n : Nat) : Session σ :=
  { s with world := s.world.awaits s.connection.endpoint.other.id n }

/-- The turn comes back in a wait; the waits count from 0. -/
def Returns (s : Session σ) (n : Nat) : Prop :=
  ((s.awaits n).world.await s.connection.endpoint.other.id).1 = true

instance (s : Session σ) (n : Nat) : Decidable (s.Returns n) :=
  inferInstanceAs (Decidable (_ = true))

def Arrives (s : Session σ) (n : Nat) : Prop := s.Returns n ∧ ∀ j < n, ¬ s.Returns j

/-- A session that has the turn after the wait in which it came back. -/
def resumed (s : Session σ) (n : Nat) : Session σ :=
  (s.awaits (n + 1)).withEndpoint s.connection.endpoint.tookTurn

/-- Without the turn every call that needs it is refused, and changes nothing at all. -/
structure Stuck (s : Session σ) : Prop where
  phase : s.connection.endpoint.phase = .waiting
  exchange : ∀ mode, (Talk.exchange mode).run s =
    (.error (.channel (.turnViolation .write .waiting)), s)
  handshake : ∀ fuel keepWaiting, (Talk.handshake fuel keepWaiting).run s =
    (.error (.channel (.turnViolation .write .waiting)), s)
  request : ∀ kind name value, (Talk.request kind name value).run s =
    (.error (.channel (.turnViolation .write .waiting)), s)

theorem stuck_of_waiting {s : Session σ} (waiting : s.connection.endpoint.phase = .waiting) :
    s.Stuck := by
  constructor
  case phase => exact waiting
  case exchange =>
    intro mode
    rw [Talk.exchange, run_bind, Talk.run_update_waiting waiting]
  case handshake =>
    intro fuel keepWaiting
    rw [Talk.handshake, run_bind, Talk.run_update_waiting waiting]
  case request => exact Talk.run_request_waiting waiting

end Session

namespace Talk

variable {s t : Session σ}

theorem run_publishedFault_eq (s : Session σ) : publishedFault.run s = (.ok s.fault?, s) := by
  unfold Session.fault?
  cases content : s.world.space.content? s.connection.endpoint.region.id with
  | some m => exact run_publishedFault content
  | none => simp [publishedFault, Endpoint.snapshot, content]

variable [Peer Message σ] {h : Session σ} (waiting : h.connection.endpoint.phase = .waiting)

include waiting

theorem run_awaitTurn_alike {n : Nat} (alike : (h.awaits n).Alike t) :
    (h.Returns n ∧ ∃ u, awaitTurn.run t = (.ok true, u) ∧ (h.resumed n).Alike u) ∨
      ¬ h.Returns n ∧ ∃ u, awaitTurn.run t = (.ok false, u) ∧ (h.awaits (n + 1)).Alike u := by
  obtain ⟨same, world⟩ := alike
  have away : t.connection.endpoint.phase = .waiting := by
    rw [same]
    exact waiting
  have id : t.connection.endpoint.other.id = h.connection.endpoint.other.id := by
    rw [same]
    rfl
  obtain ⟨came, after⟩ := world.await h.connection.endpoint.other.id
  rw [run_awaitTurn away, id]
  rcases waited : t.world.await h.connection.endpoint.other.id with ⟨_ | _, w⟩
  · rw [waited] at came after
    refine .inr ⟨fun back => ?_, _, rfl, same, after⟩
    cases came.trans back
  · rw [waited] at came after
    refine .inl ⟨came.symm, _, rfl, ?_, after⟩
    rw [same]
    rfl

end Talk

end Simulator

end Lockstep
