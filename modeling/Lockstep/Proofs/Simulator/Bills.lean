import Lockstep.Proofs.Simulator.Talk

/-! What calls of a simulator count that go well.

A connection counts an exchange for each turn that comes back and gives each request
the next number. Whoever is at the other end, a call that goes well ends with the
turn and has counted what it asked for.
-/

set_option autoImplicit false

namespace Lockstep.Simulator

open Channel Message Parameter Effect

variable {σ β : Type}

structure SameBooks (s t : Session σ) : Prop where
  exchanges : t.connection.exchanges = s.connection.exchanges
  requests : t.connection.requests = s.connection.requests

theorem SameBooks.trans {s t u : Session σ} (first : SameBooks s t) (second : SameBooks t u) :
    SameBooks s u :=
  ⟨second.exchanges.trans first.exchanges, second.requests.trans first.requests⟩

instance : IsPreorder (Session σ) SameBooks where
  refl _ := ⟨rfl, rfl⟩
  trans _ _ _ := SameBooks.trans

/-- A session whose simulator has the turn, some exchanges and requests later. -/
structure Billed (exchanges : Nat) (requests : UInt64) (s t : Session σ) : Prop where
  active : t.connection.endpoint.phase = .active
  exchanges : t.connection.exchanges = s.connection.exchanges + exchanges
  requests : t.connection.requests = s.connection.requests + requests

theorem Billed.of_same {requests : UInt64} {s t u : Session σ} (same : SameBooks s t)
    (active : u.connection.endpoint.phase = .active)
    (exchanges : u.connection.exchanges = t.connection.exchanges + 1)
    (asked : u.connection.requests = t.connection.requests + requests) : Billed 1 requests s u := by
  refine ⟨active, ?_, ?_⟩
  · rw [exchanges, same.exchanges]
  · rw [asked, same.requests]

theorem Billed.after {exchanges : Nat} {requests : UInt64} {s t u : Session σ}
    (billed : Billed exchanges requests t u) (same : SameBooks s t) :
    Billed exchanges requests s u := by
  refine ⟨billed.active, ?_, ?_⟩
  · rw [billed.exchanges, same.exchanges]
  · rw [billed.requests, same.requests]

namespace Talk

-- What counts nothing, whatever becomes of it.

theorem free_act (a : Act Message σ Channel.Error β) : Within SameBooks (act a) :=
  fun s => .of_run (run_act s a) ⟨rfl, rfl⟩

theorem free_note (level : Level) (text : String) (fields : List (String × FieldValue)) :
    Within SameBooks (note level text fields : Talk σ Unit) :=
  fun s => .of_run (run_note s level text fields) ⟨rfl, rfl⟩

theorem free_remark (waited : Nat) : Within SameBooks (remark waited : Talk σ Unit) := by
  intro s
  obtain ran | ⟨record, ran⟩ := run_remark s waited <;>
    exact .of_run ran ⟨rfl, rfl⟩

theorem free_ofExcept (r : Except Error β) : Within SameBooks (ofExcept r : Talk σ β) :=
  .of_same fun _ => rfl

theorem free_update (f : Message → Message) : Within SameBooks (update f : Talk σ Unit) :=
  Within.bind (.of_same fun _ => rfl) fun _ => free_act _

theorem free_handOver : Within SameBooks (handOver : Talk σ Unit) :=
  Within.bind (.of_same fun _ => rfl) fun _ => (free_act _).bind fun _ _ => ⟨rfl, rfl⟩

theorem free_publishedFault : Within SameBooks (publishedFault : Talk σ (Option String)) := by
  apply Within.of_same
  intro s
  simp only [publishedFault, run_bind, run_get]
  split
  · rfl
  · rfl

theorem message_reads {s t : Session σ} {m : Message} (ran : message.run s = (.ok m, t)) :
    t = s ∧ s.world.space.content? s.connection.endpoint.region.id = some m := by
  cases phase : s.connection.endpoint.phase with
  | waiting =>
    have refused := s.connection.endpoint.read_of_waiting s.world.space (by simp [phase])
    simp [message, refused, Except.mapError] at ran
    cases ran
  | active =>
    have read := s.connection.endpoint.read_of_active s.world.space phase
    cases snapshot : s.connection.endpoint.snapshot s.world.space with
    | error e =>
      simp [message, read, snapshot, Except.mapError] at ran
      cases ran
    | ok content =>
      simp only [message, run_bind, run_connection, run_act, Act.run_space, Act.run_ofExcept, read,
        snapshot, Except.mapError] at ran
      cases ran
      exact ⟨rfl, Endpoint.of_snapshot_ok _ _ snapshot⟩

theorem checkResponse_numbered {response : Message.Response} {number : UInt64} {kind : RequestKind}
    {name : String} {v : Value} (checked : checkResponse response number kind name = .ok v) :
    response.number = number := by
  by_contra other
  simp [checkResponse, other, bind, Except.bind] at checked

section

variable [Peer Message σ] {s t : Session σ}

theorem awaitTurn_bills {r : Except Error Bool} (ran : awaitTurn.run s = (r, t)) :
    SameBooks s t ∧ (r = .ok true → t.connection.endpoint.phase = .active) := by
  cases phase : s.connection.endpoint.phase with
  | active =>
    cases (run_awaitTurn_active phase).symm.trans ran
    exact ⟨refl s, nofun⟩
  | waiting =>
    rw [run_awaitTurn phase] at ran
    rcases waited : s.world.await s.connection.endpoint.other.id with ⟨_ | _, w⟩
    · rw [waited] at ran
      cases ran
      exact ⟨⟨rfl, rfl⟩, nofun⟩
    · rw [waited] at ran
      cases ran
      exact ⟨⟨rfl, rfl⟩, fun _ => rfl⟩

theorem exchange_bills {mode : Mode} (ran : (exchange mode).run s = (.ok (), t)) :
    Billed 1 0 s t := by
  obtain ⟨_, u, wrote, ran⟩ := run_bind_ok ran
  obtain ⟨_, v, handed, ran⟩ := run_bind_ok ran
  obtain ⟨came, w, waited, ran⟩ := run_bind_ok ran
  have before : SameBooks s v := ((free_update _).of_run wrote).trans (free_handOver.of_run handed)
  obtain ⟨same, back⟩ := awaitTurn_bills waited
  cases came with
  | false =>
    obtain ⟨_, _, -, ran⟩ := run_bind_ok ran
    cases ran
  | true =>
    cases ran
    exact .of_same (before.trans same) (back rfl) rfl (UInt64.add_zero _).symm

/-- However long it takes, the first answer costs one turn. -/
theorem awaitRobot_bills {keepWaiting : Nat → σ → Bool} {fuel waited : Nat}
    (ran : (awaitRobot keepWaiting fuel waited).run s = (.ok (some true), t)) :
    Billed 1 0 s t := by
  induction fuel generalizing s waited with
  | zero => cases ran
  | succ fuel ih =>
    obtain ⟨came, u, waited, ran⟩ := run_bind_ok ran
    obtain ⟨same, back⟩ := awaitTurn_bills waited
    cases came with
    | true =>
      cases ran
      exact .of_same same (back rfl) rfl (UInt64.add_zero _).symm
    | false =>
      obtain ⟨fault, v, looked, ran⟩ := run_bind_ok ran
      have before := same.trans (free_publishedFault.of_run looked)
      cases fault with
      | some text => cases ran
      | none =>
        obtain ⟨_, _, here, ran⟩ := run_bind_ok ran
        cases here
        split at ran
        · obtain ⟨_, x, remarked, ran⟩ := run_bind_ok ran
          exact (ih ran).after (before.trans ((free_remark _).of_run remarked))
        · cases ran

theorem handshake_bills {fuel : Nat} {keepWaiting : Nat → σ → Bool}
    (ran : (handshake fuel keepWaiting).run s = (.ok (some true), t)) : Billed 1 0 s t := by
  obtain ⟨_, u, wrote, ran⟩ := run_bind_ok ran
  obtain ⟨_, v, handed, ran⟩ := run_bind_ok ran
  have before : SameBooks s v := ((free_update _).of_run wrote).trans (free_handOver.of_run handed)
  exact (awaitRobot_bills ran).after before

theorem awaitAnswer_bills {name : String} {number : UInt64} {waits attempt : Nat} {came : Bool}
    (ran : (awaitAnswer name number waits attempt).run s = (.ok came, t)) :
    SameBooks s t ∧ (came = true → t.connection.endpoint.phase = .active) := by
  induction waits generalizing s attempt with
  | zero =>
    cases ran
    exact ⟨refl _, nofun⟩
  | succ waits ih =>
    obtain ⟨back, u, waited, ran⟩ := run_bind_ok ran
    obtain ⟨same, active⟩ := awaitTurn_bills waited
    cases back with
    | true =>
      cases ran
      exact ⟨same, fun _ => active rfl⟩
    | false =>
      obtain ⟨_, v, noted, ran⟩ := run_bind_ok ran
      obtain ⟨later, active⟩ := ih ran
      exact ⟨(same.trans ((free_note _ _ _).of_run noted)).trans later, active⟩

/-- A request that is answered costs a turn, and the response bears the number that it had. -/
theorem request_bills {wanted : RequestKind} {name : String} {value v : Value}
    (ran : (request wanted name value).run s = (.ok v, t)) : Billed 1 1 s t ∧
      ∃ m, t.world.space.content? t.connection.endpoint.region.id = some m ∧
        m.toSimulator.response.number = t.connection.requests := by
  obtain ⟨c, _, here, ran⟩ := run_bind_ok ran
  cases here
  obtain ⟨old, a, looked, ran⟩ := run_bind_ok ran
  obtain ⟨asked, b, made, ran⟩ := run_bind_ok ran
  obtain ⟨_, d, wrote, ran⟩ := run_bind_ok ran
  obtain ⟨_, e, numbered, ran⟩ := run_bind_ok ran
  cases numbered
  obtain ⟨_, f, handed, ran⟩ := run_bind_ok ran
  obtain ⟨came, g, waited, ran⟩ := run_bind_ok ran
  have before : SameBooks s d := (((free_act _).of_run looked).trans
    ((free_ofExcept _).of_run made)).trans ((free_update _).of_run wrote)
  have after := free_handOver.of_run handed
  obtain ⟨same, active⟩ := awaitAnswer_bills waited
  cases came with
  | false =>
    obtain ⟨_, h, -, ran⟩ := run_bind_ok ran
    obtain ⟨_, _, thrown, -⟩ := run_bind_ok ran
    cases thrown
  | true =>
    obtain ⟨_, h, counted, ran⟩ := run_bind_ok ran
    cases counted
    obtain ⟨m, i, read, ran⟩ := run_bind_ok ran
    obtain ⟨current, j, checked, ran⟩ := run_bind_ok ran
    obtain ⟨rfl, content⟩ := message_reads read
    obtain ⟨passed, rfl⟩ := Prod.mk.inj checked
    cases ran
    have exchanges : g.connection.exchanges = s.connection.exchanges :=
      (same.exchanges.trans after.exchanges).trans before.exchanges
    have requests : g.connection.requests = s.connection.requests + 1 :=
      same.requests.trans after.requests
    exact ⟨⟨active rfl, congrArg (· + 1) exchanges, requests⟩, m, content,
      (checkResponse_numbered passed).trans requests.symm⟩

end

end Talk

end Lockstep.Simulator
