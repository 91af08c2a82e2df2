import Lockstep.Peer.Robot
import Lockstep.Proofs.Simulator.Linked
import Lockstep.Proofs.Simulator.Waits

/-! Waiting again, which never hands over again.

A call of the simulator writes once, hands the turn over once, and then only
waits. So whatever becomes of it is told by the waits after that one turn: the
first in which the turn comes back, or their number if it never does.
-/

set_option autoImplicit false

namespace Lockstep.Simulator

open Channel Message Parameter Effect

variable {σ : Type}

namespace Talk

variable {t : Session σ} [Peer Message σ] {h : Session σ}
  (waiting : h.connection.endpoint.phase = .waiting)

include waiting

/-- The waits for an answer: it comes in one of them, or all are in vain. -/
theorem awaitAnswer_patient (name : String) (number : UInt64) (waits attempt : Nat) {n : Nat}
    (alike : (h.awaits n).Alike t) (vain : ∀ j < n, ¬ h.Returns j) :
    Ends (awaitAnswer name number waits attempt) t fun r u =>
      (∃ k < n + waits, h.Arrives k ∧ r = .ok true ∧ (h.resumed k).Alike u) ∨
        (∀ k < n + waits, ¬ h.Returns k) ∧ r = .ok false ∧ (h.awaits (n + waits)).Alike u := by
  induction waits generalizing t n attempt with
  | zero => exact .of_run (run_pure _ _) (.inr ⟨vain, rfl, alike⟩)
  | succ waits ih =>
    unfold awaitAnswer
    obtain ⟨back, u, ran, now⟩ | ⟨away, u, ran, now⟩ := run_awaitTurn_alike waiting alike
    · refine .step ran (.of_run (run_pure _ _) (.inl ⟨n, ?_, ⟨back, vain⟩, rfl, now⟩))
      omega
    · refine .step ran (.step (run_note _ _ _ _) ?_)
      rw [Nat.add_comm waits 1, ← Nat.add_assoc]
      refine ih (attempt + 1) ⟨now.connection, now.world.space, now.world.peer⟩ fun j early => ?_
      obtain before | rfl := Nat.lt_succ_iff_lt_or_eq.mp early
      · exact vain j before
      · exact away

end Talk

/-- How a request ends that was handed over. Its answer counts if it comes in the
first wait or in one of the further ones that are granted. -/
structure RequestEnds [Peer Message σ] (h : Session σ) (q : Message.Request) (kind : RequestKind)
    (name : String) (result : Except Error Value) (t : Session σ) : Prop where
  answered : ∀ k ≤ h.connection.options.retries, h.Arrives k →
    result = (h.resumed k).reported h.connection.requests kind name ∧
      (h.resumed k).counted.Alike t
  value : ∀ k ≤ h.connection.options.retries, h.Arrives k → ∀ m v count,
    (h.resumed k).world.space.content? h.connection.endpoint.region.id = some m →
    m.toSimulator.response = .acknowledge q v count → result = .ok v
  unanswered : (∀ k ≤ h.connection.options.retries, ¬ h.Arrives k) →
    result = .error (.notAcknowledged name h.connection.requests
      (h.awaits (h.connection.options.retries + 1)).fault?) ∧
      (h.awaits (h.connection.options.retries + 1)).Alike t ∧ t.Stuck
  counted_iff : t.connection.exchanges = h.connection.exchanges + 1 ↔
    ∃ k ≤ h.connection.options.retries, h.Arrives k
  acknowledged_iff : (∀ fault?, result ≠ .error (.notAcknowledged name h.connection.requests fault?)) ↔
    ∃ k ≤ h.connection.options.retries, h.Arrives k

section

variable [Peer Message σ] {h t : Session σ} {q : Message.Request} {kind : RequestKind}
  {name : String} {value : Value}

theorem Session.Arrives.unique {k k' : Nat} (first : h.Arrives k) (other : h.Arrives k') :
    k = k' := by
  obtain less | same | more := Nat.lt_trichotomy k k'
  · exact absurd first.1 (other.2 k less)
  · exact same
  · exact absurd other.1 (first.2 k' more)

theorem RequestEnds.of_arrives (made : Request.make h.connection.requests kind name value = .ok q)
    {k : Nat} (early : k ≤ h.connection.options.retries) (arrives : h.Arrives k)
    (now : (h.resumed k).counted.Alike t) :
    RequestEnds h q kind name ((h.resumed k).reported h.connection.requests kind name) t := by
  constructor
  case answered =>
    intro k' _ arrives'
    rw [← arrives.unique arrives']
    exact ⟨rfl, now⟩
  case value =>
    intro k' _ arrives' m v count content repeated
    rw [← arrives.unique arrives'] at content
    have here : (h.resumed k).world.space.content? (h.resumed k).connection.endpoint.region.id =
      some m := content
    rw [Session.reported, here]
    dsimp only
    rw [repeated]
    exact Talk.checkResponse_acknowledge made v count
  case unanswered => exact fun none => absurd arrives (none k early)
  case counted_iff =>
    refine ⟨fun _ => ⟨k, early, arrives⟩, fun _ => ?_⟩
    rw [now.connection]
    rfl
  case acknowledged_iff =>
    exact ⟨fun _ => ⟨k, early, arrives⟩, fun _ _ => (h.resumed k).reported_ne⟩

theorem RequestEnds.of_vain (waiting : h.connection.endpoint.phase = .waiting)
    (vain : ∀ k < h.connection.options.retries + 1, ¬ h.Returns k)
    (now : (h.awaits (h.connection.options.retries + 1)).Alike t) :
    RequestEnds h q kind name (.error (.notAcknowledged name h.connection.requests
      (h.awaits (h.connection.options.retries + 1)).fault?)) t := by
  have none : ∀ k ≤ h.connection.options.retries, ¬ h.Arrives k :=
    fun k early arrives => vain k (Nat.lt_succ_of_le early) arrives.1
  have some : ¬ ∃ k ≤ h.connection.options.retries, h.Arrives k :=
    fun ⟨k, early, arrives⟩ => none k early arrives
  constructor
  case answered | value => exact fun k early arrives => absurd arrives (none k early)
  case unanswered => exact fun _ => ⟨rfl, now, Session.stuck_of_waiting (now.connection ▸ waiting)⟩
  case counted_iff =>
    refine ⟨fun counted => ?_, fun arrives => absurd arrives some⟩
    rw [now.connection] at counted
    exact absurd counted (Nat.succ_ne_self _).symm
  case acknowledged_iff =>
    exact ⟨fun acknowledged => absurd rfl (acknowledged _), fun arrives => absurd arrives some⟩

end

namespace Talk

variable {s t : Session σ}

theorem run_message_eq (active : s.connection.endpoint.phase = .active) : message.run s =
    (match s.world.space.content? s.connection.endpoint.region.id with
      | some m => .ok m
      | none => .error (.channel (.regionNotFound s.connection.endpoint.names.region)), s) := by
  cases content : s.world.space.content? s.connection.endpoint.region.id with
  | some m => exact run_message active content
  | none =>
    simp [message, Endpoint.read_of_active _ _ active, Endpoint.snapshot, content, Except.mapError]

def readAnswer (kind : RequestKind) (name : String) (number : UInt64) : Talk σ Value := do
  countExchange
  let response := (← message).toSimulator.response
  let current ← ofExcept (checkResponse response number kind name)
  note .debug "Parameter response"
    [("request", .number number.toNat), ("kind", .text kind.label), ("name", .text name),
      ("current", .text current.text), ("n_parameters", .number response.parameterCount.toNat)]
  return current

/-- What is left of a request once it is handed over: to wait for the answer and to read it. -/
def receive [Peer Message σ] (kind : RequestKind) (name : String) (number : UInt64) (waits : Nat) :
    Talk σ Value := do
  if !(← awaitAnswer name number waits 0) then
    throw (.notAcknowledged name number (← publishedFault))
  readAnswer kind name number

theorem readAnswer_reported (active : s.connection.endpoint.phase = .active) (kind : RequestKind)
    (name : String) (number : UInt64) : Ends (readAnswer kind name number) s fun r t =>
      r = s.reported number kind name ∧ s.counted.Alike t := by
  unfold readAnswer Session.reported
  refine .step (run_countExchange s) ?_
  have read : message.run s.counted =
      (match s.world.space.content? s.connection.endpoint.region.id with
        | some m => .ok m
        | none => .error (.channel (.regionNotFound s.connection.endpoint.names.region)),
      s.counted) := run_message_eq (s := s.counted) active
  cases content : s.world.space.content? s.connection.endpoint.region.id with
  | none =>
    rw [content] at read
    exact .halt read ⟨rfl, rfl, rfl, rfl⟩
  | some m =>
    rw [content] at read
    refine .step read ?_
    dsimp only
    cases checked : checkResponse m.toSimulator.response number kind name with
    | error e => exact .halt (run_ofExcept _ _) ⟨rfl, rfl, rfl, rfl⟩
    | ok current =>
      refine .step (run_ofExcept _ _) (.step (run_note _ _ _ _) (.of_run (run_pure _ _) ?_))
      exact ⟨rfl, rfl, rfl, rfl⟩

variable [Peer Message σ]

theorem request_of_receive {m : Message} {kind : RequestKind} {name : String} {value : Value}
    {q : Message.Request} {post : Except Error Value → Session σ → Prop}
    (active : s.connection.endpoint.phase = .active)
    (found : s.world.space.content? s.connection.endpoint.region.id = some m)
    (room : s.world.space.count s.connection.endpoint.own.id < Space.maxCount)
    (made : Request.make (s.connection.requests + 1) kind name value = .ok q)
    (rest : Ends (receive kind name (s.connection.requests + 1) (s.connection.options.retries + 1))
      (s.handed (requesting m q) (s.connection.requests + 1)) post) :
    Ends (request kind name value) s post := by
  have read : s.connection.endpoint.snapshot s.world.space = .ok m := by
    rw [Endpoint.snapshot, found]
  have published : m.publish (s.connection.requests + 1) kind name value =
      .ok ⟨m.toSimulator, { m.toRobot with request := q }⟩ := by
    rw [Message.publish, made]
    rfl
  unfold request
  refine .step (run_connection s) (.step (a := m) (t := s) ?_ ?_)
  · simp [Endpoint.require_of_eq _ active, read, Except.mapError]
  refine .step (by rw [run_ofExcept, published]; rfl) (.step (run_update active found _) ?_)
  exact .step (run_modify _ _) (.step (run_handOver active room) rest)

variable {h : Session σ} (waiting : h.connection.endpoint.phase = .waiting)

include waiting

theorem receive_patient {kind : RequestKind} {name : String} {value : Value} {q : Message.Request}
    (made : Request.make h.connection.requests kind name value = .ok q) :
    Ends (receive kind name h.connection.requests (h.connection.options.retries + 1)) h
      (RequestEnds h q kind name) := by
  unfold receive
  have waited := awaitAnswer_patient (t := h) (n := 0) waiting name h.connection.requests
    (h.connection.options.retries + 1) 0 ⟨rfl, rfl, rfl⟩ nofun
  rw [Nat.zero_add] at waited
  apply waited.bind
  · rintro e t (⟨_, _, _, same, _⟩ | ⟨_, same, _⟩) <;> cases same
  rintro answered t (⟨k, early, arrives, same, now⟩ | ⟨vain, same, now⟩)
  · cases same
    have early := Nat.le_of_lt_succ early
    have active : t.connection.endpoint.phase = .active := by
      rw [now.connection]
      rfl
    apply (readAnswer_reported active kind name h.connection.requests).mono
    rintro r u ⟨rfl, after⟩
    rw [now.reported]
    exact .of_arrives made early arrives (now.counted.trans after)
  · cases same
    refine .step (run_publishedFault_eq t) (.halt (run_throw _ _) ?_)
    rw [now.fault?]
    exact .of_vain waiting vain now

end Talk

namespace Session

variable [Peer Message σ] (h : Session σ) (keepWaiting : Nat → σ → Bool)

/-- Waits after each of which a handshake goes on: the turn was not there, no fault
text was, and waiting was still wanted. -/
def Bides (n : Nat) : Prop := ∀ j < n, ¬ h.Returns j ∧ (h.awaits (j + 1)).fault? = none ∧
  keepWaiting j (h.awaits (j + 1)).world.peer = true

/-- What a handshake makes of one wait: nothing, if it goes on waiting. -/
def verdict (n : Nat) : Option (Except Error Bool) :=
  if h.Returns n then some (.ok true)
  else match (h.awaits (n + 1)).fault? with
    | some text => some (.error (.robotStalled (some text)))
    | none => if keepWaiting n (h.awaits (n + 1)).world.peer then none else some (.ok false)

/-- The session that a handshake leaves after the wait that brought its verdict. -/
def ended (n : Nat) : Except Error Bool → Session σ
  | .ok true => (h.resumed n).counted
  | .ok false | .error _ => h.awaits (n + 1)

variable {h keepWaiting} {n : Nat}

theorem verdict_of_returns (back : h.Returns n) : h.verdict keepWaiting n = some (.ok true) :=
  if_pos back

theorem verdict_of_fault (away : ¬ h.Returns n) {text : String}
    (left : (h.awaits (n + 1)).fault? = some text) :
    h.verdict keepWaiting n = some (.error (.robotStalled (some text))) := by
  rw [verdict, if_neg away, left]

theorem verdict_of_silent (away : ¬ h.Returns n) (silent : (h.awaits (n + 1)).fault? = none) :
    h.verdict keepWaiting n =
      if keepWaiting n (h.awaits (n + 1)).world.peer then none else some (.ok false) := by
  rw [verdict, if_neg away, silent]

theorem verdict_eq_none_iff : h.verdict keepWaiting n = none ↔ ¬ h.Returns n ∧
    (h.awaits (n + 1)).fault? = none ∧ keepWaiting n (h.awaits (n + 1)).world.peer = true := by
  by_cases back : h.Returns n
  · simp [verdict_of_returns back, back]
  cases left : (h.awaits (n + 1)).fault? with
  | some text => simp [verdict_of_fault back left]
  | none => simp [verdict_of_silent back left, back]

theorem returns_of_verdict (stops : h.verdict keepWaiting n = some (.ok true)) : h.Returns n := by
  by_contra away
  cases left : (h.awaits (n + 1)).fault? with
  | some text => cases stops.symm.trans (verdict_of_fault away left)
  | none =>
    rw [verdict_of_silent away left] at stops
    split at stops <;> cases stops

theorem bides_iff : h.Bides keepWaiting n ↔ ∀ j < n, h.verdict keepWaiting j = none := by
  unfold Bides
  simp only [verdict_eq_none_iff]

theorem Bides.unique {k k' : Nat} {v v' : Except Error Bool} (bides : h.Bides keepWaiting k)
    (stops : h.verdict keepWaiting k = some v) (bides' : h.Bides keepWaiting k')
    (stops' : h.verdict keepWaiting k' = some v') : k = k' ∧ v = v' := by
  rw [bides_iff] at bides bides'
  obtain less | rfl | more := Nat.lt_trichotomy k k'
  · cases stops.symm.trans (bides' k less)
  · exact ⟨rfl, Option.some.inj (stops.symm.trans stops')⟩
  · cases stops'.symm.trans (bides k' more)

end Session

/-- How a handshake ends that was handed over, when it may wait a number of times. It
is answered just if the turn comes back before a wait after which it has to stop. -/
structure HandshakeEnds [Peer Message σ] (h : Session σ) (fuel : Nat) (keepWaiting : Nat → σ → Bool)
    (result : Except Error (Option Bool)) (t : Session σ) : Prop where
  answered : ∀ k < fuel, h.Bides keepWaiting k → h.Returns k →
    result = .ok (some true) ∧ (h.resumed k).counted.Alike t
  stalled : ∀ k < fuel, h.Bides keepWaiting k → ¬ h.Returns k → ∀ text,
    (h.awaits (k + 1)).fault? = some text →
    result = .error (.robotStalled (some text)) ∧ (h.awaits (k + 1)).Alike t
  unwanted : ∀ k < fuel, h.Bides keepWaiting k → ¬ h.Returns k →
    (h.awaits (k + 1)).fault? = none → keepWaiting k (h.awaits (k + 1)).world.peer = false →
    result = .ok (some false) ∧ (h.awaits (k + 1)).Alike t
  spent : h.Bides keepWaiting fuel → result = .ok none ∧ (h.awaits fuel).Alike t
  answered_iff : result = .ok (some true) ↔ ∃ k < fuel, h.Bides keepWaiting k ∧ h.Returns k
  stuck : result ≠ .ok (some true) → t.Stuck

section

variable [Peer Message σ] {h t : Session σ} {keepWaiting : Nat → σ → Bool}
  (waiting : h.connection.endpoint.phase = .waiting)

include waiting

theorem HandshakeEnds.of_verdict {fuel k : Nat} {v : Except Error Bool} (early : k < fuel)
    (bides : h.Bides keepWaiting k) (stops : h.verdict keepWaiting k = some v)
    (now : (h.ended k v).Alike t) : HandshakeEnds h fuel keepWaiting (v.map some) t := by
  -- The wait that a field is about is the one that brought the verdict.
  have same : ∀ k', h.Bides keepWaiting k' → ∀ v', h.verdict keepWaiting k' = some v' →
      v.map some = v'.map some ∧ (h.ended k' v').Alike t := by
    intro k' bides' v' stops'
    obtain ⟨rfl, rfl⟩ := bides.unique stops bides' stops'
    exact ⟨rfl, now⟩
  constructor
  case answered =>
    exact fun k' _ bides' back => same k' bides' _ (Session.verdict_of_returns back)
  case stalled =>
    exact fun k' _ bides' away text left => same k' bides' _ (Session.verdict_of_fault away left)
  case unwanted =>
    intro k' _ bides' away silent refused
    have verdict : h.verdict keepWaiting k' = _ := Session.verdict_of_silent away silent
    rw [refused] at verdict
    exact same k' bides' _ verdict
  case spent =>
    intro on
    cases stops.symm.trans (Session.bides_iff.mp on k early)
  case answered_iff =>
    refine ⟨fun answered => ⟨k, early, bides, ?_⟩, fun ⟨k', _, bides', back⟩ =>
      (same k' bides' _ (Session.verdict_of_returns back)).1⟩
    obtain e | _ | _ := v
    · cases answered
    · cases answered
    · exact Session.returns_of_verdict stops
  case stuck =>
    intro unanswered
    apply Session.stuck_of_waiting
    rw [now.connection]
    obtain e | _ | _ := v
    · exact waiting
    · exact waiting
    · exact absurd rfl unanswered

theorem HandshakeEnds.of_bides {fuel : Nat} (bides : h.Bides keepWaiting fuel)
    (now : (h.awaits fuel).Alike t) : HandshakeEnds h fuel keepWaiting (.ok none) t := by
  have none : ∀ k < fuel, ¬ h.Returns k := fun k early => (bides k early).1
  constructor
  case answered => exact fun k early _ back => absurd back (none k early)
  case stalled =>
    intro k early _ _ text left
    cases left.symm.trans (bides k early).2.1
  case unwanted =>
    intro k early _ _ _ refused
    cases refused.symm.trans (bides k early).2.2
  case spent => exact fun _ => ⟨rfl, now⟩
  case answered_iff =>
    exact ⟨nofun, fun ⟨k, early, _, back⟩ => absurd back (none k early)⟩
  case stuck => exact fun _ => Session.stuck_of_waiting (now.connection ▸ waiting)

end

namespace Talk

variable [Peer Message σ] {h t : Session σ} {keepWaiting : Nat → σ → Bool}
  (waiting : h.connection.endpoint.phase = .waiting)

include waiting

/-- The waits of a handshake: one of them is the last, or the fuel is. -/
theorem awaitRobot_patient {fuel n : Nat} (alike : (h.awaits n).Alike t)
    (bides : h.Bides keepWaiting n) : Ends (awaitRobot keepWaiting fuel n) t fun r u =>
      (∃ k < n + fuel, h.Bides keepWaiting k ∧ ∃ v, h.verdict keepWaiting k = some v ∧
        r = v.map some ∧ (h.ended k v).Alike u) ∨
      h.Bides keepWaiting (n + fuel) ∧ r = .ok none ∧ (h.awaits (n + fuel)).Alike u := by
  induction fuel generalizing t n with
  | zero => exact .of_run (run_pure _ _) (.inr ⟨bides, rfl, alike⟩)
  | succ fuel ih =>
    have here : n < n + (fuel + 1) := Nat.lt_add_of_pos_right (Nat.succ_pos fuel)
    unfold awaitRobot
    obtain ⟨back, u, ran, now⟩ | ⟨away, u, ran, now⟩ := run_awaitTurn_alike waiting alike
    · refine .step ran (.step (run_countExchange u) (.step (run_note _ _ _ _) ?_))
      refine .of_run (run_pure _ _) (.inl ⟨n, here, bides, _, Session.verdict_of_returns back, rfl, ?_⟩)
      exact ⟨now.counted.connection, now.world.space, now.world.peer⟩
    refine .step ran (.step (run_publishedFault_eq u) ?_)
    rw [now.fault?]
    cases left : (h.awaits (n + 1)).fault? with
    | some text =>
      exact .of_run (run_throw _ _)
        (.inl ⟨n, here, bides, _, Session.verdict_of_fault away left, rfl, now⟩)
    | none =>
      have verdict : h.verdict keepWaiting n = _ := Session.verdict_of_silent away left
      refine .step (run_get u) ?_
      rw [now.world.peer]
      cases wanted : keepWaiting n (h.awaits (n + 1)).world.peer with
      | false =>
        rw [wanted] at verdict
        exact .of_run (run_pure _ _) (.inl ⟨n, here, bides, _, verdict, rfl, now⟩)
      | true =>
        have further : h.Bides keepWaiting (n + 1) := by
          intro j early
          obtain before | rfl := Nat.lt_succ_iff_lt_or_eq.mp early
          · exact bides j before
          · exact ⟨away, left, wanted⟩
        rw [Nat.add_comm fuel 1, ← Nat.add_assoc]
        obtain same | ⟨record, same⟩ := run_remark u (n + 1)
        · exact .step same (ih now further)
        · exact .step same (ih ⟨now.connection, now.world.space, now.world.peer⟩ further)

theorem awaitRobot_ends_patient (keepWaiting : Nat → σ → Bool) (fuel : Nat) :
    Ends (awaitRobot keepWaiting fuel 0) h (HandshakeEnds h fuel keepWaiting) := by
  have waited : Ends (awaitRobot keepWaiting fuel 0) h _ :=
    awaitRobot_patient (n := 0) waiting ⟨rfl, rfl, rfl⟩ nofun
  rw [Nat.zero_add] at waited
  apply waited.mono
  rintro r t (⟨k, early, bides, v, stops, rfl, now⟩ | ⟨bides, rfl, now⟩)
  · exact .of_verdict waiting early bides stops now
  · exact .of_bides waiting bides now

end Talk

section

variable [Peer Message σ] {s : Session σ} {m : Message}

/-- A simulator that has the turn writes a request once and hands over once, however
often it waits for the answer after that, and so it does in a handshake. What the
waits bring is all that decides how the call ends. A request that cannot be made
is not sent. -/
theorem waits_after_one_turn (active : s.connection.endpoint.phase = .active)
    (found : s.world.space.content? s.connection.endpoint.region.id = some m)
    (room : s.world.space.count s.connection.endpoint.own.id < Space.maxCount) :
    (∀ kind name value q, Request.make (s.connection.requests + 1) kind name value = .ok q →
      Ends (Talk.request kind name value) s (RequestEnds
        (s.handed (Talk.requesting m q) (s.connection.requests + 1)) q kind name)) ∧
    (∀ kind name value cause,
      Request.make (s.connection.requests + 1) kind name value = .error cause →
      (Talk.request kind name value).run s = (.error (.parameter cause), s)) ∧
    ∀ fuel keepWaiting, Ends (Talk.handshake fuel keepWaiting) s (HandshakeEnds
      (s.handed (m.setMode .idle) s.connection.requests) fuel keepWaiting) := by
  refine ⟨?_, ?_, ?_⟩
  · intro kind name value q made
    have received := Talk.receive_patient
      (h := s.handed (Talk.requesting m q) (s.connection.requests + 1)) rfl made
    exact Talk.request_of_receive active found room made received
  · exact fun kind name value cause => Talk.run_request_refused active found
  · intro fuel keepWaiting
    have waited := Talk.awaitRobot_ends_patient
      (h := s.handed (m.setMode .idle) s.connection.requests) rfl keepWaiting fuel
    exact Talk.handshake_of_awaitRobot active found room waited

end

def unhurried (retries : Nat) : Session RobotPeer :=
  ⟨.created .empty .standard .miniCheetah ⟨Config.standardTurnTimeout, retries⟩,
    ⟨opened .empty .standard .miniCheetah,
      .start .standard (some (.start .miniCheetah .passive .robot)) 1, #[]⟩⟩

def asking : Message.Request :=
  ⟨1, (Value.zero .s64).toWire, Wire.padded nameCapacity (Text.Utf8.encode "use_rc"),
    (RequestKind.get false).code, Kind.s64.code⟩

def unhurriedAsked (retries : Nat) : Session RobotPeer :=
  (unhurried retries).handed (Talk.requesting (opening .miniCheetah) asking) 1

/-- One further wait is enough for the answer, and without it the simulator is stuck. -/
theorem second_wait_decides :
    ((Talk.request (.get false) "use_rc" (.zero .s64)).run (unhurried 1)).1 = .ok (.s64 0) ∧
    ((Talk.request (.get false) "use_rc" (.zero .s64)).run (unhurried 1)).2.connection.exchanges = 1 ∧
    ((Talk.request (.get false) "use_rc" (.zero .s64)).run (unhurried 0)).1 =
      .error (.notAcknowledged "use_rc" 1 none) ∧
    ((Talk.request (.get false) "use_rc" (.zero .s64)).run (unhurried 0)).2.Stuck := by
  have made : Request.make 1 (.get false) "use_rc" (.zero .s64) = .ok asking := by decide +kernel
  have found : (unhurried 0).world.space.content? 0 = some (opening .miniCheetah) :=
    Space.content?_setContent (content?_withChannel .empty .standard _) _
  have room : (unhurried 0).world.space.count 1 < Space.maxCount := by decide +kernel
  have ends : ∀ retries, Ends (Talk.request (.get false) "use_rc" (.zero .s64)) (unhurried retries)
      (RequestEnds (unhurriedAsked retries) asking (.get false) "use_rc") := fun retries =>
    (waits_after_one_turn (s := unhurried retries) rfl found room).1 _ _ _ _ made
  unfold Ends at ends
  have late : ¬ (unhurriedAsked 1).Returns 0 ∧ (unhurriedAsked 1).Returns 1 ∧
      ¬ (unhurriedAsked 0).Returns 0 := by decide +kernel
  obtain ⟨away, back, gone⟩ := late
  have arrives : (unhurriedAsked 1).Arrives 1 := by
    refine ⟨back, fun j early => ?_⟩
    obtain rfl := Nat.lt_one_iff.mp early
    exact away
  have never : ∀ k ≤ 0, ¬ (unhurriedAsked 0).Arrives k := by
    intro k none arrives
    obtain rfl := Nat.le_zero.mp none
    exact gone arrives.1
  obtain ⟨answered, -⟩ := (ends 1).answered 1 (Nat.le_refl 1) arrives
  have counted := (ends 1).counted_iff.mpr ⟨1, Nat.le_refl 1, arrives⟩
  obtain ⟨unanswered, -, stuck⟩ := (ends 0).unanswered never
  refine ⟨answered.trans ?_, counted, unanswered.trans ?_, stuck⟩
  · decide +kernel
  · decide +kernel

end Lockstep.Simulator
