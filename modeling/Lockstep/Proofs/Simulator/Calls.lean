import Lockstep.Proofs.Simulator.Talk

/-! The calls of a simulator, told from the waits in them.

Whatever is known of one wait says how a whole call ends. Nothing here depends
on who is at the other end.
-/

set_option autoImplicit false

namespace Lockstep.Simulator.Talk

open Channel Message Parameter Effect

variable {σ β : Type} [Peer Message σ] {s : Session σ} {m : Message}

theorem ends_of_awaitTurn {between : Except Error Bool → Session σ → Prop}
    {f : Bool → Talk σ β} {post : Except Error β → Session σ → Prop}
    (waiting : s.connection.endpoint.phase = .waiting) (waited : Ends awaitTurn s between)
    (rest : ∀ came t, between (.ok came) t → Ends (f came) t post) :
    Ends (awaitTurn >>= f) s post := by
  unfold Ends at waited
  rw [run_awaitTurn waiting] at waited
  rcases ran : s.world.await s.connection.endpoint.other.id with ⟨_ | _, w⟩
  · rw [ran] at waited
    exact .step ((run_awaitTurn waiting).trans (by rw [ran])) (rest false _ waited)
  · rw [ran] at waited
    exact .step ((run_awaitTurn waiting).trans (by rw [ran])) (rest true _ waited)

section

variable (active : s.connection.endpoint.phase = .active)
  (found : s.world.space.content? s.connection.endpoint.region.id = some m)
  (room : s.world.space.count s.connection.endpoint.own.id < Space.maxCount)

include active found

include room in
theorem exchange_of_awaitTurn {mode : Mode} {between : Except Error Bool → Session σ → Prop}
    {post : Except Error Unit → Session σ → Prop}
    (waited : Ends awaitTurn (s.handed (m.setMode mode) s.connection.requests) between)
    (came : ∀ t, between (.ok true) t → post (.ok ()) t.counted)
    (missed : ∀ t, between (.ok false) t →
      ∃ m', t.world.space.content? t.connection.endpoint.region.id = some m' ∧
        post (.error (.robotStalled m'.toSimulator.faultText?)) t) :
    Ends (exchange mode) s post := by
  unfold exchange
  refine .step (run_update active found _) (.step (run_handOver_withSpace active room) ?_)
  apply ends_of_awaitTurn rfl waited
  rintro (_ | _) t holds
  · obtain ⟨m', content, holds⟩ := missed t holds
    exact .step (run_publishedFault content) (.of_run (run_throw _ _) holds)
  · exact .of_run (run_countExchange t) (came t holds)

include room in
theorem handshake_of_awaitRobot {fuel : Nat} {keepWaiting : Nat → σ → Bool}
    {post : Except Error (Option Bool) → Session σ → Prop}
    (waited : Ends (awaitRobot keepWaiting fuel 0)
      (s.handed (m.setMode .idle) s.connection.requests) post) :
    Ends (handshake fuel keepWaiting) s post := by
  unfold handshake
  exact .step (run_update active found _) (.step (run_handOver_withSpace active room) waited)

end

/-- Waiting for a robot that may come late: one wait after the other, with
nothing said of a fault between two of them. -/
theorem awaitRobot_of_awaitTurn (inv : Session σ → Prop)
    {post : Except Error (Option Bool) → Session σ → Prop}
    (waiting : ∀ s, inv s → s.connection.endpoint.phase = .waiting)
    (wait : ∀ s, inv s → Ends awaitTurn s fun r t =>
      (r = .ok true → ∀ record, post (.ok (some true)) (t.counted.noted record)) ∧
      (r = .ok false → ∃ m',
        t.world.space.content? t.connection.endpoint.region.id = some m' ∧
        (∀ text, m'.toSimulator.faultText? = some text →
          post (.error (.robotStalled (some text))) t) ∧
        (m'.toSimulator.faultText? = none → inv t)))
    (noted : ∀ s record, inv s → inv (s.noted record))
    (spent : ∀ s, inv s → post (.ok none) s ∧ post (.ok (some false)) s)
    (keepWaiting : Nat → σ → Bool) (fuel waited : Nat) (holds : inv s) :
    Ends (awaitRobot keepWaiting fuel waited) s post := by
  induction fuel generalizing s waited with
  | zero => exact .of_run (run_pure _ _) (spent s holds).1
  | succ fuel ih =>
    unfold awaitRobot
    apply ends_of_awaitTurn (waiting s holds) (wait s holds)
    rintro (_ | _) t ⟨came, missed⟩
    · obtain ⟨m', content, heard, silent⟩ := missed rfl
      refine .step (run_publishedFault content) ?_
      cases text : m'.toSimulator.faultText? with
      | some text' => exact .of_run (run_throw _ _) (heard text' text)
      | none =>
        refine .step (run_get _) ?_
        split
        · obtain ran | ⟨record, ran⟩ := run_remark t (waited + 1)
          · exact .step ran (ih (waited + 1) (silent text))
          · exact .step ran (ih (waited + 1) (noted t record (silent text)))
        · exact .of_run (run_pure _ _) (spent t (silent text)).2
    · exact .step (run_countExchange t) (.step (run_note _ _ _ _) (.of_run (run_pure _ _)
        (came rfl _)))

/-- Waiting for an answer: what holds may depend on how many waits are left. -/
theorem awaitAnswer_of_awaitTurn (inv : Nat → Session σ → Prop)
    {post : Except Error Bool → Session σ → Prop}
    (waiting : ∀ n s, inv n s → s.connection.endpoint.phase = .waiting)
    (wait : ∀ n s, inv (n + 1) s → Ends awaitTurn s fun r t =>
      (r = .ok true → post (.ok true) t) ∧ (r = .ok false → ∀ record, inv n (t.noted record)))
    (spent : ∀ s, inv 0 s → post (.ok false) s)
    (name : String) (number : UInt64) {waits : Nat} (attempt : Nat) (holds : inv waits s) :
    Ends (awaitAnswer name number waits attempt) s post := by
  induction waits generalizing s attempt with
  | zero => exact .of_run (run_pure _ _) (spent s holds)
  | succ waits ih =>
    unfold awaitAnswer
    apply ends_of_awaitTurn (waiting _ s holds) (wait waits s holds)
    rintro (_ | _) t ⟨came, missed⟩
    · exact .step (run_note _ _ _ _) (ih (attempt + 1) (missed rfl _))
    · exact .of_run (run_pure _ _) (came rfl)

def requesting (m : Message) (q : Message.Request) : Message :=
  Message.setMode ⟨m.toSimulator, { m.toRobot with request := q }⟩ .applyParameters

section

variable {kind : RequestKind} {name : String} {value : Value}

theorem run_request_waiting (waiting : s.connection.endpoint.phase = .waiting)
    (kind : RequestKind) (name : String) (value : Value) : (request kind name value).run s =
      (.error (.channel (.turnViolation .write .waiting)), s) := by
  have off : s.connection.endpoint.phase ≠ .active := by simp [waiting]
  have refused := Endpoint.require_of_ne s.connection.endpoint off .write
  simp [request, refused, waiting, Except.mapError]

variable (active : s.connection.endpoint.phase = .active)
  (found : s.world.space.content? s.connection.endpoint.region.id = some m)

include active found

theorem run_request_refused {cause : Parameter.Error}
    (refused : Request.make (s.connection.requests + 1) kind name value = .error cause) :
    (request kind name value).run s = (.error (.parameter cause), s) := by
  have read : s.connection.endpoint.snapshot s.world.space = .ok m := by
    rw [Endpoint.snapshot, found]
  have published : m.publish (s.connection.requests + 1) kind name value = .error cause := by
    rw [Message.publish, refused]
    rfl
  unfold request
  simp [Endpoint.require_of_eq _ active, read, Except.mapError, published]

theorem request_of_awaitAnswer {q : Message.Request}
    {between : Except Error Bool → Session σ → Prop} {post : Except Error Value → Session σ → Prop}
    (room : s.world.space.count s.connection.endpoint.own.id < Space.maxCount)
    (made : Request.make (s.connection.requests + 1) kind name value = .ok q)
    (waited : Ends (awaitAnswer name (s.connection.requests + 1)
      (s.connection.options.retries + 1) 0)
      (s.handed (requesting m q) (s.connection.requests + 1)) between)
    (failed : ∀ e t, ¬ between (.error e) t)
    (came : ∀ t, between (.ok true) t → t.connection.endpoint.phase = .active ∧ ∃ m',
      t.world.space.content? t.connection.endpoint.region.id = some m' ∧
      ∀ r, checkResponse m'.toSimulator.response (s.connection.requests + 1) kind name = r →
        post r t.counted ∧ ∀ record, post r (t.counted.noted record))
    (missed : ∀ t, between (.ok false) t →
      ∃ m', t.world.space.content? t.connection.endpoint.region.id = some m' ∧
        post (.error (.notAcknowledged name (s.connection.requests + 1)
          m'.toSimulator.faultText?)) t) :
    Ends (request kind name value) s post := by
  have read : s.connection.endpoint.snapshot s.world.space = .ok m := by
    rw [Endpoint.snapshot, found]
  have published : m.publish (s.connection.requests + 1) kind name value =
      .ok ⟨m.toSimulator, { m.toRobot with request := q }⟩ := by
    rw [Message.publish, made]
    rfl
  unfold request
  refine .step (run_connection s) (.step (a := m) (t := s) ?_ ?_)
  · simp [Endpoint.require_of_eq _ active, read, Except.mapError]
  refine .step (by rw [run_ofExcept, published]; rfl) (.step (run_update active found _) ?_)
  refine .step (run_modify _ _) (.step (run_handOver active room) ?_)
  apply Ends.bind waited
  · exact fun e t none => absurd none (failed e t)
  rintro (_ | _) t holds
  · obtain ⟨m', content, holds⟩ := missed t holds
    exact .step (run_publishedFault content) (.halt (run_throw _ _) holds)
  · obtain ⟨phase, m', content, holds⟩ := came t holds
    refine .step (run_countExchange t) (.step (run_message phase content) ?_)
    cases checked : checkResponse m'.toSimulator.response (s.connection.requests + 1) kind name with
    | error e => exact .halt (by rw [run_ofExcept, checked]) (holds _ checked).1
    | ok current =>
      refine .step (by rw [run_ofExcept, checked]) (.step (run_note _ _ _ _) ?_)
      exact .of_run (run_pure _ _) ((holds _ checked).2 _)

end

end Lockstep.Simulator.Talk
