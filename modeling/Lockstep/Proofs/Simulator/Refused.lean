import Lockstep.Proofs.Parameter.Spelling
import Lockstep.Proofs.Simulator.Patience
import Lockstep.Proofs.Simulator.Steps

/-! Calls that are refused before the turn is handed over.

A call that needs the turn asks for it first, one with a name looks at the name before it writes
any of it, and a file is read to its end before a word of it is sent. So what is refused for one
of these leaves the session as it was: message, turns, counts and all.
-/

set_option autoImplicit false

namespace Lockstep

open Channel Message Parameter Effect

theorem Channel.Space.setContent_setContent {α : Type} (s : Space α) (id : Nat) (a b : α) :
    (s.setContent id a).setContent id b = s.setContent id b := by
  unfold setContent
  congr 1
  apply Array.ext
  · simp
  · intro i inside _
    by_cases here : id = i <;> simp [Array.getElem_modify, here]

namespace Simulator

variable {σ β : Type} {s : Session σ} {e : Error}

def Session.barrier? (s : Session σ) : Option Error :=
  match s.connection.endpoint.phase with
  | .waiting => some (.channel (.turnViolation .write .waiting))
  | .active =>
    match s.world.space.content? s.connection.endpoint.region.id with
    | none => some (.channel (.regionNotFound s.connection.endpoint.names.region))
    | some _ => none

theorem Session.barrier?_of_waiting (waiting : s.connection.endpoint.phase = .waiting) :
    s.barrier? = some (.channel (.turnViolation .write .waiting)) := by
  rw [barrier?, waiting]

theorem Session.barrier?_eq_none_iff : s.barrier? = none ↔ s.connection.endpoint.phase = .active ∧
    ∃ m, s.world.space.content? s.connection.endpoint.region.id = some m := by
  unfold barrier?
  cases s.connection.endpoint.phase with
  | waiting => simp
  | active => cases s.world.space.content? s.connection.endpoint.region.id <;> simp

theorem Session.barred_cases (barred : s.barrier? = some e) :
    (s.connection.endpoint.phase = .waiting ∧ e = .channel (.turnViolation .write .waiting)) ∨
      s.connection.endpoint.phase = .active ∧
        s.world.space.content? s.connection.endpoint.region.id = none ∧
        e = .channel (.regionNotFound s.connection.endpoint.names.region) := by
  unfold barrier? at barred
  split at barred
  next waiting => exact .inl ⟨waiting, (Option.some.inj barred).symm⟩
  next active =>
    split at barred
    next missing => exact .inr ⟨active, missing, (Option.some.inj barred).symm⟩
    next => cases barred

def nameFault? (name : String) : Option Error :=
  match checkName name with
  | .ok _ => none
  | .error cause => some (.parameter cause)

theorem nameFault?_eq_none_iff {name : String} : nameFault? name = none ↔ Proper name := by
  rw [nameFault?, ← checkName_eq_ok_iff]
  cases checkName name <;> simp

namespace Talk

-- Requests as they are written, one field after the other.

def access : Talk σ Unit := do
  let e := (← connection).endpoint
  act do
    Act.ofExcept (e.require .active .write)
    let _ ← Act.ofExcept (e.snapshot (← Act.space))

def amendRequest (f : Message.Request → Message.Request) : Talk σ Unit :=
  update fun m => { m with toRobot := { m.toRobot with request := f m.toRobot.request } }

/-- Write a request where the robot is going to read it. The name goes in first: it is
all that can be wrong. -/
def writeRequest (number : UInt64) (kind : RequestKind) (name : String) (value : Value) :
    Talk σ Unit := do
  let wire ← ofExcept ((encodeName name).mapError .parameter)
  amendRequest fun q => { q with rawName := wire }
  amendRequest fun q => { q with number := number }
  amendRequest fun q => { q with rawKind := kind.code }
  amendRequest fun q => { q with rawValueKind := value.kind.code }
  amendRequest fun q => { q with rawValue := value.toWire }

/-- A request that is written in place, then the mode, then the counter. -/
def requestInPlace [Peer Message σ] (kind : RequestKind) (name : String) (value : Value) :
    Talk σ Value := do
  let c ← connection
  let number := c.requests + 1
  access
  writeRequest number kind name value
  update (·.setMode .applyParameters)
  modify fun s => { s with connection := { s.connection with requests := number } }
  handOver
  receive kind name number (c.options.retries + 1)

theorem run_access_barred (barred : s.barrier? = some e) : access.run s = (.error e, s) := by
  obtain ⟨waiting, rfl⟩ | ⟨active, missing, rfl⟩ := Session.barred_cases barred
  · have off : s.connection.endpoint.phase ≠ .active := by simp [waiting]
    have refused := Endpoint.require_of_ne s.connection.endpoint off .write
    simp [access, refused, waiting, Except.mapError]
  · simp [access, Endpoint.require_of_eq _ active, Endpoint.snapshot, missing, Except.mapError]

theorem run_access {m : Message} (active : s.connection.endpoint.phase = .active)
    (found : s.world.space.content? s.connection.endpoint.region.id = some m) :
    access.run s = (.ok (), s) := by
  simp [access, Endpoint.require_of_eq _ active, Endpoint.snapshot, found, Except.mapError]

theorem run_update_barred (barred : s.barrier? = some e) (f : Message → Message) :
    (update f).run s = (.error e, s) := by
  obtain ⟨waiting, rfl⟩ | ⟨active, missing, rfl⟩ := Session.barred_cases barred
  · exact run_update_waiting waiting f
  · have absent := Endpoint.update_of_missing s.connection.endpoint _ active f missing
    simp [update, absent, Except.mapError]

theorem update_update (f g : Message → Message) :
    (do
      update f
      update g : Talk σ Unit) = update fun m => g (f m) := by
  apply ExceptT.ext
  funext s
  change (update f >>= fun _ => update g).run s = (update fun m => g (f m)).run s
  cases barred : s.barrier? with
  | some e => rw [run_bind, run_update_barred barred, run_update_barred barred]
  | none =>
    obtain ⟨active, m, found⟩ := Session.barrier?_eq_none_iff.mp barred
    rw [run_bind, run_update active found, run_update active found]
    have now : (s.wrote (f m)).world.space.content? s.connection.endpoint.region.id = some (f m) :=
      Space.content?_setContent found _
    refine (run_update (s := s.wrote (f m)) active now g).trans ?_
    have last := Space.setContent_setContent s.world.space s.connection.endpoint.region.id
      (f m) (g (f m))
    simp only [Session.wrote, Session.withSpace, World.setSpace, last]

theorem writeRequest_of_encodeName {number : UInt64} {kind : RequestKind} {name : String}
    {value : Value} {wire : WireName} (encoded : encodeName name = .ok wire) :
    (writeRequest number kind name value : Talk σ Unit) = update fun m =>
      { m with toRobot :=
        { m.toRobot with request := ⟨number, value.toWire, wire, kind.code, value.kind.code⟩ } } := by
  simp only [writeRequest, encoded, amendRequest, update_update, Except.mapError]
  rfl

variable [Peer Message σ]

theorem run_request_barred (barred : s.barrier? = some e) (kind : RequestKind) (name : String)
    (value : Value) : (request kind name value).run s = (.error e, s) := by
  obtain ⟨waiting, rfl⟩ | ⟨active, missing, rfl⟩ := Session.barred_cases barred
  · exact run_request_waiting waiting kind name value
  · have absent : s.connection.endpoint.snapshot s.world.space =
        .error (.regionNotFound s.connection.endpoint.names.region) := by
      rw [Endpoint.snapshot, missing]
    simp [request, Endpoint.require_of_eq _ active, absent, Except.mapError]

theorem make_eq {number : UInt64} {kind : RequestKind} {name : String} {value : Value} :
    Request.make number kind name value = (encodeName name).map fun wire =>
      ⟨number, value.toWire, wire, kind.code, value.kind.code⟩ := by
  unfold Request.make
  cases encodeName name <;> rfl

theorem run_request_made {m : Message} (active : s.connection.endpoint.phase = .active)
    (found : s.world.space.content? s.connection.endpoint.region.id = some m) {kind : RequestKind}
    {name : String} {value : Value} {q : Message.Request}
    (made : Request.make (s.connection.requests + 1) kind name value = .ok q) :
    (request kind name value).run s = (do
      handOver
      receive kind name (s.connection.requests + 1) (s.connection.options.retries + 1)).run
        ((s.wrote (requesting m q)).numbered (s.connection.requests + 1)) := by
  have read : s.connection.endpoint.snapshot s.world.space = .ok m := by
    rw [Endpoint.snapshot, found]
  have looked : (act do
      Act.ofExcept (s.connection.endpoint.require .active .write)
      Act.ofExcept (s.connection.endpoint.snapshot (← Act.space))).run s = (.ok m, s) := by
    simp [Endpoint.require_of_eq _ active, read, Except.mapError]
  have published : m.publish (s.connection.requests + 1) kind name value =
      .ok ⟨m.toSimulator, { m.toRobot with request := q }⟩ := by
    rw [Message.publish, made]
    rfl
  rw [request, run_bind, run_connection]
  dsimp only
  rw [run_bind, looked]
  dsimp only
  rw [published, run_bind, Except.mapError, run_ofExcept]
  dsimp only
  rw [run_bind, run_update active found]
  rfl

/-- Written field by field a request is what it is when it is written at once, however it ends. -/
theorem requestInPlace_eq (kind : RequestKind) (name : String) (value : Value) :
    (requestInPlace kind name value : Talk σ Value) = request kind name value := by
  apply ExceptT.ext
  funext s
  rw [requestInPlace, run_bind, run_connection]
  dsimp only
  cases barred : s.barrier? with
  | some e => rw [run_request_barred barred, run_bind, run_access_barred barred]
  | none =>
    obtain ⟨active, m, found⟩ := Session.barrier?_eq_none_iff.mp barred
    rw [run_bind, run_access active found]
    dsimp only
    cases encoded : encodeName name with
    | error cause =>
      have refused : Request.make (s.connection.requests + 1) kind name value = .error cause := by
        rw [make_eq, encoded]
        rfl
      rw [run_request_refused active found refused]
      simp [writeRequest, encoded, Except.mapError]
    | ok wire =>
      have made : Request.make (s.connection.requests + 1) kind name value =
          .ok ⟨s.connection.requests + 1, value.toWire, wire, kind.code, value.kind.code⟩ := by
        rw [make_eq, encoded]
        rfl
      rw [run_request_made active found made, writeRequest_of_encodeName encoded, ← bind_assoc,
        update_update, run_bind, run_update active found]
      rfl

theorem run_setParameter_error {name : String} {value : Value} {user : Bool}
    (failed : (request (.set user) name value).run s = (.error e, s)) :
    (setParameter name value user).run s = (.error e, s) := by
  rw [setParameter, run_bind, failed]

theorem run_request_unnamed {name : String} (fault : nameFault? name = some e) (kind : RequestKind)
    (value : Value) (free : s.barrier? = none) :
    (request kind name value).run s = (.error e, s) := by
  obtain ⟨active, m, found⟩ := Session.barrier?_eq_none_iff.mp free
  unfold nameFault? at fault
  split at fault
  · cases fault
  next cause checked =>
    cases fault
    have refused : Request.make (s.connection.requests + 1) kind name value = .error cause := by
      rw [make_eq, encodeName, checked]
      rfl
    exact run_request_refused active found refused

end Talk

namespace Call

/-- Why a call fails before it comes to handing over the turn, if it does. -/
def refusal? (s : Session σ) : Call σ → Option Error
  | handshake .. | exchange _ | sense _ => s.barrier?
  | set name .. | get name .. => s.barrier? <|> nameFault? name
  | load _ file _ =>
    match loadValues file with
    | .error cause => some (.parameter cause)
    | .ok [] => none
    | .ok (_ :: _) => s.barrier?
  | pause => none

/-- A call with a text that is no name or a file that gives no values, or one that needs the turn
while it is away. -/
def Unfit (s : Session σ) : Call σ → Prop
  | handshake .. | exchange _ | sense _ => s.connection.endpoint.phase = .waiting
  | set name .. | get name .. => ¬ Proper name ∨ s.connection.endpoint.phase = .waiting
  | load _ file _ => (∃ cause, loadValues file = .error cause) ∨
      (∃ first rest, loadValues file = .ok (first :: rest)) ∧ s.connection.endpoint.phase = .waiting
  | pause => False

/-- The calls that are not refused, each made where those before it led. -/
def fit [Peer Message σ] : List (Call σ) → Session σ → List (Call σ)
  | [], _ => []
  | call :: rest, s =>
    match call.refusal? s with
    | some _ => fit rest s
    | none => call :: fit rest (call.talk.run s).2

theorem refused_of_unfit {call : Call σ} (unfit : call.Unfit s) : ∃ e, call.refusal? s = some e := by
  have named {name : String} (unnamed : ¬ Proper name ∨ s.connection.endpoint.phase = .waiting) :
      ∃ e, (s.barrier? <|> nameFault? name) = some e := by
    apply Option.ne_none_iff_exists'.mp
    rw [ne_eq, Option.orElse_eq_none, nameFault?_eq_none_iff, Session.barrier?_eq_none_iff]
    rintro ⟨⟨active, -⟩, proper⟩
    obtain unnamed | waiting := unnamed
    · exact unnamed proper
    · cases active.symm.trans waiting
  cases call with
  | handshake | exchange | sense => exact ⟨_, Session.barrier?_of_waiting unfit⟩
  | set name value user => exact named unfit
  | get name kind user => exact named unfit
  | load path file user =>
    obtain ⟨cause, unread⟩ | ⟨⟨first, rest, loaded⟩, waiting⟩ := unfit
    · exact ⟨_, by rw [refusal?, unread]⟩
    · exact ⟨_, by rw [refusal?, loaded]; exact Session.barrier?_of_waiting waiting⟩
  | pause => cases unfit

variable [Peer Message σ]

theorem run_refused {call : Call σ} (refused : call.refusal? s = some e) :
    call.talk.run s = (.error e, s) := by
  have asked {kind : RequestKind} {name : String} {value : Value}
      (refused : (s.barrier? <|> nameFault? name) = some e) :
      (Talk.request kind name value).run s = (.error e, s) := by
    cases barred : s.barrier? with
    | some cause =>
      rw [barred] at refused
      cases refused
      exact Talk.run_request_barred barred kind name value
    | none =>
      rw [barred] at refused
      exact Talk.run_request_unnamed refused kind value barred
  cases call with
  | handshake fuel keepWaiting =>
    simp [talk, Talk.handshake, Talk.run_update_barred refused]
  | exchange mode => simp [talk, Talk.exchange, Talk.run_update_barred refused]
  | sense write => exact Talk.run_update_barred refused _
  | set name value user =>
    rw [talk, run_bind, Talk.run_setParameter_error (asked refused)]
  | get name kind user =>
    rw [talk, run_bind, Talk.getParameter, asked refused]
  | load path file user =>
    rw [refusal?] at refused
    cases loaded : loadValues file with
    | error cause =>
      rw [loaded] at refused
      cases refused
      simp [talk, Talk.loadFile, loaded, Except.mapError]
    | ok values =>
      rw [loaded] at refused
      cases values with
      | nil => cases refused
      | cons first rest =>
        obtain ⟨name, value⟩ := first
        have stopped : (Talk.setParameter name value user).run s = (.error e, s) :=
          Talk.run_setParameter_error (Talk.run_request_barred refused (.set user) name value)
        simp [talk, Talk.loadFile, loaded, Except.mapError, Talk.setParameters, stopped]
  | pause => cases refused

/-- Leaving out the calls that are refused makes no difference to a session, nor to its robot. -/
theorem run_fit (calls : List (Call σ)) (s : Session σ) : run (fit calls s) s = run calls s := by
  induction calls generalizing s with
  | nil => rfl
  | cons call rest ih =>
    unfold fit
    split
    next e refused =>
      rw [ih, run, run, List.foldl_cons, run_refused refused]
    next => exact ih _

end Call

end Simulator

end Lockstep
