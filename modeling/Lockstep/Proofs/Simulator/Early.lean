import Lockstep.Proofs.Parameter.Width
import Lockstep.Proofs.Simulator.Refused

/-! What a simulator can tell from an error.

Some errors are told only before anything is done: that the turn is away, that a file gives
no values, that a name is too long or has a NUL in it. Once a message is written and handed
over none of them comes up, whatever the robot answers. So who gets one of them knows that
nothing was changed.
-/

set_option autoImplicit false

namespace Lockstep.Simulator

open Channel Message Parameter Effect

variable {σ β : Type} {s t : Session σ} {e : Error}

/-- Errors that come up before the turn is handed over, or not at all. -/
def Error.Early : Error → Prop
  | .channel (.turnViolation ..) | .parameter (.file _) | .parameter (.valueMismatch ..)
  | .parameter (.nameTooLong _) | .parameter (.invalidName (.containsNul _)) => True
  | _ => False

theorem decodeName_late {wire : WireName} {cause : Parameter.Error}
    (failed : decodeName wire = .error cause) : ¬ (Error.parameter cause).Early := by
  obtain rfl | rfl | ⟨_, rfl⟩ := fault_of_decodeName failed <;> exact id

theorem checkResponse_late {r : Message.Response} {number : UInt64} {kind : RequestKind}
    {name : String} (failed : Talk.checkResponse r number kind name = .error e) : ¬ e.Early := by
  unfold Talk.checkResponse at failed
  split at failed
  · cases failed
    exact id
  obtain failed | ⟨echoed, -, rest⟩ := bind_error failed
  · obtain ⟨cause, unread, rfl⟩ := mapError_error failed
    exact decodeName_late unread
  split at rest
  · cases rest
    exact id
  · obtain ⟨cause, untagged, rfl⟩ := mapError_error rest
    obtain ⟨-, rfl⟩ := Value.ofTagged_eq_error_iff.mp untagged
    exact id

theorem Session.reported_late {number : UInt64} {kind : RequestKind} {name : String}
    (failed : s.reported number kind name = .error e) : ¬ e.Early := by
  unfold Session.reported at failed
  split at failed
  · exact checkResponse_late failed
  · cases failed
    exact id

theorem Session.stalled_of_verdict [Peer Message σ] {keepWaiting : Nat → σ → Bool} {n : Nat}
    (stops : s.verdict keepWaiting n = some (.error e)) : ∃ text, e = .robotStalled (some text) := by
  unfold verdict at stops
  split at stops
  · cases stops
  split at stops
  next text _ =>
    cases stops
    exact ⟨text, rfl⟩
  next => split at stops <;> cases stops

def Late (r : Except Error β) : Prop := ∀ e, r = .error e → ¬ e.Early

theorem late_ok (b : β) : Late (.ok b) := nofun

theorem late_error (late : ¬ e.Early) : Late (.error e : Except Error β) := by
  rintro _ same
  cases same
  exact late

structure Settles (r : Except Error β) (t : Session σ) : Prop where
  late : Late r
  back : ∀ b, r = .ok b → t.connection.endpoint.phase = .active

theorem Settles.of_error (late : ¬ e.Early) (t : Session σ) :
    Settles (.error e : Except Error β) t := ⟨late_error late, nofun⟩

namespace Talk

theorem ends_handOver {rest : Talk σ β} {post : Except Error β → Session σ → Prop}
    (active : s.connection.endpoint.phase = .active)
    (full : post (.error (.channel (.semaphoreOverflow s.connection.endpoint.own.name))) s)
    (after : Ends rest s.passed post) :
    Ends (do
      handOver
      rest) s post := by
  by_cases room : s.world.space.count s.connection.endpoint.own.id < Space.maxCount
  · exact .step (run_handOver active room) after
  · have overflow := Endpoint.finish_of_full s.connection.endpoint s.world.space active room
    exact .halt (by simp [handOver, overflow, Except.mapError]) full

variable [Peer Message σ]

theorem receive_settles {kind : RequestKind} {name : String} {value : Value} {q : Message.Request}
    (waiting : s.connection.endpoint.phase = .waiting)
    (made : Request.make s.connection.requests kind name value = .ok q) :
    Ends (receive kind name s.connection.requests (s.connection.options.retries + 1)) s
      Settles := by
  apply (receive_patient waiting made).mono
  intro r t ends
  by_cases came : ∃ k ≤ s.connection.options.retries, s.Arrives k
  · obtain ⟨k, early, arrives⟩ := came
    obtain ⟨rfl, now⟩ := ends.answered k early arrives
    refine ⟨fun e failed => (s.resumed k).reported_late failed, fun _ _ => ?_⟩
    rw [now.connection]
    rfl
  · obtain ⟨rfl, -⟩ := ends.unanswered fun k early arrives => came ⟨k, early, arrives⟩
    exact .of_error id t

/-- With the turn and a name a request fails late if it fails, and else the turn is back. -/
theorem request_settles (active : s.connection.endpoint.phase = .active) {name : String}
    (proper : Proper name) (kind : RequestKind) (value : Value) :
    Ends (request kind name value) s Settles := by
  cases found : s.world.space.content? s.connection.endpoint.region.id with
  | none =>
    have barred : s.barrier? = some (.channel (.regionNotFound s.connection.endpoint.names.region)) := by
      simp only [Session.barrier?, active, found]
    exact .of_run (run_request_barred barred kind name value) (.of_error id s)
  | some m =>
    obtain ⟨q, made⟩ := Request.make_of_named (checkName_eq_ok_iff.mpr proper)
      (s.connection.requests + 1) kind value
    let asked := (s.wrote (requesting m q)).numbered (s.connection.requests + 1)
    have received : Ends (receive kind name asked.connection.requests
        (asked.connection.options.retries + 1)) asked.passed Settles :=
      receive_settles (s := asked.passed) rfl made
    unfold Ends
    rw [run_request_made active found made]
    exact ends_handOver (s := asked) active (.of_error id asked) received

theorem setParameter_settles (active : s.connection.endpoint.phase = .active) {name : String}
    (proper : Proper name) (value : Value) (user : Bool) :
    Ends (setParameter name value user) s Settles := by
  unfold setParameter
  apply (request_settles active proper (.set user) value).bind
  · exact fun e t settles => .of_error (settles.late e rfl) t
  · intro v t settles
    have back := settles.back v rfl
    exact .step (run_note _ _ _ _) (.of_run (run_pure _ _) ⟨late_ok v, fun _ _ => back⟩)

theorem setParameters_late (user : Bool) (values : List (String × Value))
    (proper : ∀ pair ∈ values, Proper pair.1) (active : s.connection.endpoint.phase = .active) :
    Ends (setParameters user values) s fun r _ => Late r := by
  induction values generalizing s with
  | nil => exact .of_run (run_pure _ _) (late_ok ())
  | cons pair rest ih =>
    obtain ⟨name, value⟩ := pair
    have named := proper _ List.mem_cons_self
    have others : ∀ pair ∈ rest, Proper pair.1 :=
      fun pair member => proper pair (List.mem_cons_of_mem _ member)
    unfold setParameters
    apply (setParameter_settles active named value user).bind
    · exact fun e t settles => late_error (settles.late e rfl)
    · exact fun v t settles => ih others (settles.back v rfl)

theorem loadFile_late {file : Config.File} {values : List (String × Value)}
    (loaded : loadValues file = .ok values) (free : values = [] ∨ s.barrier? = none)
    (path : String) (user : Bool) : Ends (loadFile path file user) s fun r _ => Late r := by
  unfold loadFile
  refine .step (a := values) (t := s) (by rw [run_ofExcept, loaded]; rfl) ?_
  have sent : Ends (setParameters user values) s fun r _ => Late r := by
    obtain rfl | free := free
    · exact .of_run (run_pure _ _) (late_ok ())
    · obtain ⟨active, -⟩ := Session.barrier?_eq_none_iff.mp free
      apply setParameters_late user values _ active
      exact fun pair member => checkName_eq_ok_iff.mp (loadValues_named loaded member)
  apply sent.bind
  · exact fun e t late => late_error (late e rfl)
  · exact fun _ t _ => .step (run_note _ _ _ _) (.of_run (run_pure _ _) (late_ok _))

variable (free : s.barrier? = none)

include free

theorem exchange_late (mode : Mode) : Ends (exchange mode) s fun r _ => Late r := by
  obtain ⟨active, m, found⟩ := Session.barrier?_eq_none_iff.mp free
  unfold exchange
  refine .step (run_update active found _) (ends_handOver (s := s.wrote _) active (late_error id) ?_)
  obtain ⟨-, u, ran, -⟩ | ⟨-, u, ran, -⟩ := run_awaitTurn_alike
    (h := (s.wrote (m.setMode mode)).passed) rfl (n := 0) ⟨rfl, rfl, rfl⟩
  · exact .step ran (.of_run (run_countExchange u) (late_ok ()))
  · exact .step ran (.step (run_publishedFault_eq u) (.of_run (run_throw _ _) (late_error id)))

theorem handshake_late (fuel : Nat) (keepWaiting : Nat → σ → Bool) :
    Ends (handshake fuel keepWaiting) s fun r _ => Late r := by
  obtain ⟨active, m, found⟩ := Session.barrier?_eq_none_iff.mp free
  unfold handshake
  refine .step (run_update active found _) (ends_handOver (s := s.wrote _) active (late_error id) ?_)
  apply Ends.mono (awaitRobot_patient (h := (s.wrote (m.setMode .idle)).passed) (n := 0) rfl
    ⟨rfl, rfl, rfl⟩ nofun)
  rintro r t (⟨k, -, -, v, stops, rfl, -⟩ | ⟨-, rfl, -⟩)
  · cases v with
    | ok came => exact late_ok _
    | error e =>
      obtain ⟨text, rfl⟩ := Session.stalled_of_verdict stops
      exact late_error id
  · exact late_ok _

end Talk

namespace Call

variable [Peer Message σ]

theorem late (call : Call σ) (free : call.refusal? s = none) :
    Ends call.talk s fun r _ => Late r := by
  have ignored {β : Type} {x : Talk σ β} (late : Ends x s fun r _ => Late r) :
      Ends (do let _ ← x) s fun r _ => Late r := by
    apply late.ignore.mono
    rintro _ t ⟨r, late, rfl⟩ e failed
    exact late e (map_error failed)
  have named {name : String} (free : (s.barrier? <|> nameFault? name) = none) :
      s.connection.endpoint.phase = .active ∧ Proper name := by
    rw [Option.orElse_eq_none, Session.barrier?_eq_none_iff, nameFault?_eq_none_iff] at free
    exact ⟨free.1.1, free.2⟩
  cases call with
  | handshake fuel keepWaiting => exact ignored (Talk.handshake_late free fuel keepWaiting)
  | exchange mode => exact Talk.exchange_late free mode
  | set name value user =>
    obtain ⟨active, proper⟩ := named free
    exact ignored ((Talk.setParameter_settles active proper value user).mono fun _ _ settles => settles.late)
  | get name kind user =>
    obtain ⟨active, proper⟩ := named free
    exact ignored ((Talk.request_settles active proper _ _).mono fun _ _ settles => settles.late)
  | load path file user =>
    rw [refusal?] at free
    cases loaded : loadValues file with
    | error cause => simp [loaded] at free
    | ok values =>
      apply ignored (Talk.loadFile_late loaded _ path user)
      rw [loaded] at free
      cases values with
      | nil => exact .inl rfl
      | cons first rest => exact .inr free
  | sense write =>
    obtain ⟨active, m, found⟩ := Session.barrier?_eq_none_iff.mp free
    exact .of_run (Talk.run_update active found _) (late_ok ())
  | pause => exact .of_run (run_modify _ _) (late_ok ())

theorem refused_of_early {call : Call σ} (failed : call.talk.run s = (.error e, t))
    (early : e.Early) : call.refusal? s = some e ∧ t = s := by
  cases refused : call.refusal? s with
  | some cause =>
    cases failed.symm.trans (run_refused refused)
    exact ⟨rfl, rfl⟩
  | none =>
    have late := call.late refused
    unfold Ends at late
    rw [failed] at late
    exact absurd early (late e rfl)

end Call

variable [Peer Message σ]

/-- A call with a text that is no name, with a file that gives no values, or without the turn fails
and leaves the session as it was: what the region holds, both counts, phase, turns, requests
and exchanges, and the robot too. An error that is told early comes from nothing else. What
is done next goes as if the call had not been made, so calls that are refused can be left
out among any others. It is no matter that a request is written field by field. -/
theorem refused_calls_change_nothing (s : Session σ) (call : Call σ) :
    (call.Unfit s → ∃ e, call.refusal? s = some e) ∧
    (∀ e, call.refusal? s = some e → call.talk.run s = (.error e, s)) ∧
    (∀ e t, call.talk.run s = (.error e, t) → e.Early → call.refusal? s = some e ∧ t = s) ∧
    (call.Unfit s → ∀ (β : Type) (next : Talk σ β), (do
      try call.talk catch _ => pure ()
      next).run s = next.run s) ∧
    (∀ calls, Call.run (Call.fit calls s) s = Call.run calls s) ∧
    ∀ kind name value,
      (Talk.requestInPlace kind name value : Talk σ Value) = Talk.request kind name value := by
  refine ⟨Call.refused_of_unfit, fun _ => Call.run_refused, fun _ _ => Call.refused_of_early, ?_,
    fun calls => Call.run_fit calls s, Talk.requestInPlace_eq⟩
  intro unfit β next
  obtain ⟨e, refused⟩ := Call.refused_of_unfit unfit
  rw [run_bind, run_tryCatch, Call.run_refused refused]
  rfl

/-- A simulator that has the turn sends nothing for an empty name or for want of a file, and what it
asks next is asked as if it had not tried. -/
theorem empty_name_sends_nothing :
    (Call.set "" (.s64 1) false).talk.run (unhurried 0) =
      (.error (.parameter (.invalidName .empty)), unhurried 0) ∧
    (Call.load "robot.toml" .missing false).talk.run (unhurried 0) =
      (.error (.parameter (.file .fileNotFound)), unhurried 0) ∧
    (do
      try (Call.set "" (.s64 1) false).talk catch _ => pure ()
      Talk.getParameter "use_rc" .s64 false).run (unhurried 0) =
      (Talk.getParameter "use_rc" .s64 false).run (unhurried 0) := by
  have free : (unhurried 0).barrier? = none := Session.barrier?_eq_none_iff.mpr
    ⟨rfl, opening .miniCheetah, Space.content?_setContent (content?_withChannel .empty .standard _) _⟩
  have unnamed : (Call.set "" (.s64 1) false).refusal? (unhurried 0) =
      some (.parameter (.invalidName .empty)) := by
    rw [Call.refusal?, free]
    rfl
  have unfit : (Call.set "" (.s64 1) false).Unfit (unhurried 0) := .inl fun proper => proper.some rfl
  obtain ⟨-, refused, -, next, -⟩ :=
    refused_calls_change_nothing (unhurried 0) (.set "" (.s64 1) false)
  obtain ⟨-, unread, -⟩ :=
    refused_calls_change_nothing (unhurried 0) (.load "robot.toml" .missing false)
  exact ⟨refused _ unnamed, unread _ rfl, next unfit _ _⟩

end Lockstep.Simulator
