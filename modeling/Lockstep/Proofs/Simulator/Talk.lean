import Lockstep.Proofs.Channel.Turn
import Lockstep.Simulator.Connection

/-! What the parts of a talk do, one law for each phase of the endpoint. -/

set_option autoImplicit false

namespace Lockstep.Simulator

open Channel Effect

variable {σ β : Type}

namespace Session

def withEndpoint (s : Session σ) (e : Endpoint) : Session σ :=
  { s with connection := { s.connection with endpoint := e } }

def withSpace (s : Session σ) (t : Space Message) : Session σ :=
  { s with world := s.world.setSpace t }

def noted (s : Session σ) (r : Record) : Session σ := { s with world := s.world.note r }

def counted (s : Session σ) : Session σ :=
  { s with connection := { s.connection with exchanges := s.connection.exchanges + 1 } }

def handed (s : Session σ) (m : Message) (requests : UInt64) : Session σ :=
  ⟨{ s.connection with endpoint := s.connection.endpoint.gaveTurn, requests := requests },
    s.world.setSpace ((s.world.space.setContent s.connection.endpoint.region.id m).post
      s.connection.endpoint.own.id)⟩

end Session

namespace Talk

section

variable (s : Session σ)

@[simp] theorem run_act (a : Act Message σ Channel.Error β) :
    (act a).run s = ((a.run s.world).1.mapError .channel, { s with world := (a.run s.world).2 }) :=
  rfl

@[simp] theorem run_ofExcept (r : Except Error β) : (ofExcept r : Talk σ β).run s = (r, s) := rfl

@[simp] theorem run_connection : connection.run s = (.ok s.connection, s) := rfl

@[simp] theorem run_setEndpoint (e : Endpoint) :
    (setEndpoint e).run s = (.ok (), s.withEndpoint e) := rfl

@[simp] theorem run_note (level : Level) (message : String) (fields : List (String × FieldValue)) :
    (note level message fields).run s = (.ok (), s.noted ⟨level, message, fields⟩) := rfl

theorem run_remark (waited : Nat) : (remark waited).run s = (.ok (), s) ∨
    ∃ record, (remark waited).run s = (.ok (), s.noted record) := by
  unfold remark
  split
  · exact .inr ⟨_, rfl⟩
  · exact .inl rfl

@[simp] theorem run_countExchange : countExchange.run s = (.ok (), s.counted) := rfl

variable {s} {m : Message}

theorem run_message (active : s.connection.endpoint.phase = .active)
    (found : s.world.space.content? s.connection.endpoint.region.id = some m) :
    message.run s = (.ok m, s) := by
  have read : s.connection.endpoint.read s.world.space = .ok m := by
    rw [Endpoint.read_of_active _ _ active, Endpoint.snapshot, found]
  simp [message, read, Except.mapError]

theorem run_update (active : s.connection.endpoint.phase = .active)
    (found : s.world.space.content? s.connection.endpoint.region.id = some m)
    (f : Message → Message) : (update f).run s =
      (.ok (), s.withSpace (s.world.space.setContent s.connection.endpoint.region.id (f m))) := by
  simp [update, Endpoint.update_of_active _ _ active f found, Except.mapError, Session.withSpace]

theorem run_update_waiting (waiting : s.connection.endpoint.phase = .waiting)
    (f : Message → Message) :
    (update f).run s = (.error (.channel (.turnViolation .write .waiting)), s) := by
  have refused := Endpoint.update_of_waiting s.connection.endpoint s.world.space
    (by simp [waiting]) f
  simp [update, refused, waiting, Except.mapError]

theorem run_handOver (active : s.connection.endpoint.phase = .active)
    (room : s.world.space.count s.connection.endpoint.own.id < Space.maxCount) :
    handOver.run s = (.ok (), (s.withSpace (s.world.space.post
      s.connection.endpoint.own.id)).withEndpoint s.connection.endpoint.gaveTurn) := by
  simp [handOver, Endpoint.finish_of_active _ _ active room, Except.mapError, Session.withSpace,
    Session.withEndpoint]

theorem run_handOver_withSpace (active : s.connection.endpoint.phase = .active)
    (room : s.world.space.count s.connection.endpoint.own.id < Space.maxCount) :
    handOver.run (s.withSpace (s.world.space.setContent s.connection.endpoint.region.id m)) =
      (.ok (), s.handed m s.connection.requests) :=
  run_handOver active room

theorem run_publishedFault
    (found : s.world.space.content? s.connection.endpoint.region.id = some m) :
    publishedFault.run s = (.ok m.toSimulator.faultText?, s) := by
  have read : s.connection.endpoint.snapshot s.world.space = .ok m := by
    rw [Endpoint.snapshot, found]
  simp [publishedFault, read]

variable [Peer Message σ]

theorem run_awaitTurn (waiting : s.connection.endpoint.phase = .waiting) :
    awaitTurn.run s = match s.world.await s.connection.endpoint.other.id with
      | (true, w) => (.ok true, ⟨{ s.connection with
          endpoint := s.connection.endpoint.tookTurn }, w⟩)
      | (false, w) => (.ok false, ⟨s.connection, w⟩) := by
  simp only [awaitTurn, run_bind, run_connection, run_act,
    Endpoint.run_await_of_waiting _ _ waiting]
  rcases s.world.await s.connection.endpoint.other.id with ⟨_ | _, w⟩ <;>
    simp [Except.mapError, Session.withEndpoint]

theorem run_awaitTurn_active (active : s.connection.endpoint.phase = .active) :
    awaitTurn.run s = (.error (.channel (.turnViolation
      s.connection.endpoint.role.waitOperation .active)), s) := by
  have refused := Endpoint.run_await_of_active s.connection.endpoint s.world (by simp [active])
  simp [awaitTurn, refused, active, Except.mapError]

end

end Talk

end Lockstep.Simulator
