import Mathlib.Logic.Relation
import Lockstep.Proofs.Simulator.Exchange
import Lockstep.Simulator.Headless

/-! The steps that every call of a simulator is made of.

A call writes the simulator's half of the message, hands the turn over in a mode,
waits for it, and keeps its own books. No call does anything else, however it ends, in
whatever phase it is made and whoever is at the other end; so what a step
keeps, a call keeps, and a whole run up to the moment when the channel is taken down.
-/

set_option autoImplicit false

namespace Lockstep.Simulator

open Channel Message Parameter Effect

variable {σ β γ : Type}

namespace Session

def wrote (s : Session σ) (m : Message) : Session σ :=
  s.withSpace (s.world.space.setContent s.connection.endpoint.region.id m)

def numbered (s : Session σ) (requests : UInt64) : Session σ :=
  { s with connection := { s.connection with requests := requests } }

def passed (s : Session σ) : Session σ :=
  (s.withSpace (s.world.space.post s.connection.endpoint.own.id)).withEndpoint
    s.connection.endpoint.gaveTurn

def regained (s : Session σ) (t : Space Message) : Session σ :=
  ((s.withSpace t).withEndpoint s.connection.endpoint.tookTurn).counted

def elapsed [Peer Message σ] (s : Session σ) : Session σ :=
  { s with
    world :=
      { s.world with
        peer := (Peer.move s.world.peer s.world.space).1
        space := (Peer.move s.world.peer s.world.space).2 } }

/-- One step of a simulator that hands over in modes of a kind, or a move of its peer. An
exchange is counted as soon as the turn is back. -/
inductive Step [Peer Message σ] (kind : Mode → Prop) (s : Session σ) : Session σ → Prop
  | noted (r : Record) : Step kind s (s.noted r)
  | numbered (requests : UInt64) : Step kind s (s.numbered requests)
  | wrote {m : Message} (active : s.connection.endpoint.phase = .active)
      (found : s.world.space.content? s.connection.endpoint.region.id = some m) (half : ToRobot) :
      Step kind s (s.wrote ⟨m.toSimulator, half⟩)
  | passed {m : Message} (active : s.connection.endpoint.phase = .active)
      (found : s.world.space.content? s.connection.endpoint.region.id = some m)
      (asked : ∀ mode, m.mode? = some mode → kind mode)
      (room : s.world.space.count s.connection.endpoint.own.id < Space.maxCount) :
      Step kind s s.passed
  | regained {t : Space Message} (waiting : s.connection.endpoint.phase = .waiting)
      (taken : s.world.space.take? s.connection.endpoint.other.id = some t) :
      Step kind s (s.regained t)
  | elapsed : Step kind s s.elapsed

abbrev Steps [Peer Message σ] (kind : Mode → Prop) : Session σ → Session σ → Prop :=
  Relation.ReflTransGen (Step kind)

end Session

open Session

variable [Peer Message σ] {kind : Mode → Prop}

/-- However it ends, from any session at all, nothing but steps was done. -/
abbrev Walks (kind : Mode → Prop) (x : Talk σ β) : Prop := Within (Steps kind) x

/-- As `Walks`, but the first thing done is to count an exchange. -/
def Counts (kind : Mode → Prop) (x : Talk σ β) : Prop :=
  ∀ s, Ends x s fun _ t => Steps kind s.counted t

/-- As `Walks`, but an exchange is still to be counted if the turn came. -/
def Owes (kind : Mode → Prop) (x : Talk σ Bool) : Prop :=
  ∀ s, Ends x s fun r t =>
    (r = .ok true → Steps kind s t.counted) ∧ (r ≠ .ok true → Steps kind s t)

theorem Owes.bind {x : Talk σ Bool} {f : Bool → Talk σ β} (first : Owes kind x)
    (came : Counts kind (f true)) (missed : Walks kind (f false)) : Walks kind (x >>= f) := by
  intro s
  apply (first s).bind
  · exact fun e t ⟨_, steps⟩ => steps (by simp)
  · rintro (_ | _) t ⟨counted, steps⟩
    · exact (missed t).mono fun _ _ more => (steps (by simp)).trans more
    · exact (came t).mono fun _ _ more => (counted rfl).trans more

theorem steps_of_same {x : Talk σ β} {s : Session σ} (same : (x.run s).2 = s) :
    Ends x s fun _ t => Steps kind s t := by
  unfold Ends
  rw [same]

namespace Talk

theorem walks_ofExcept (r : Except Error β) : Walks kind (ofExcept r : Talk σ β) :=
  Within.of_same fun _ => rfl

theorem walks_connection : Walks kind (connection : Talk σ Connection) :=
  Within.of_same fun _ => rfl

theorem walks_check (a : Act Message σ Channel.Error β) (same : ∀ w, (a.run w).2 = w) :
    Walks kind (act a) := Within.of_same fun s => by
  rw [run_act, same]

theorem walks_message : Walks kind (message : Talk σ Message) :=
  walks_connection.bind fun _ => walks_check _ fun _ => by simp

theorem walks_publishedFault : Walks kind (publishedFault : Talk σ (Option String)) := by
  apply Within.of_same
  intro s
  simp only [publishedFault, run_bind, run_get]
  split
  · rfl
  · rfl

theorem walks_note (level : Level) (text : String) (fields : List (String × FieldValue)) :
    Walks kind (note level text fields : Talk σ Unit) :=
  fun s => .of_run (run_note s level text fields) (.single (.noted _))

theorem walks_remark (waited : Nat) : Walks kind (remark waited : Talk σ Unit) := by
  intro s
  obtain ran | ⟨record, ran⟩ := run_remark s waited
  · exact .of_run ran .refl
  · exact .of_run ran (.single (.noted _))

theorem counts_countExchange : Counts kind (countExchange : Talk σ Unit) :=
  fun s => .of_run (run_countExchange s) .refl

theorem counts_bind {f : Unit → Talk σ β} (rest : Walks kind (f ())) :
    Counts kind (countExchange >>= f) :=
  fun s => .step (run_countExchange s) (rest s.counted)

theorem walks_update {f : Message → Message} (keeps : ∀ m, (f m).toSimulator = m.toSimulator) :
    Walks kind (update f : Talk σ Unit) := by
  intro s
  cases phase : s.connection.endpoint.phase with
  | waiting => exact .of_run (run_update_waiting phase f) .refl
  | active =>
    cases found : s.world.space.content? s.connection.endpoint.region.id with
    | none =>
      have missing := Endpoint.update_of_missing s.connection.endpoint _ phase f found
      exact steps_of_same (by simp [update, missing])
    | some m =>
      refine .of_run (run_update phase found f) (.single ?_)
      have step : Step kind s (s.wrote ⟨m.toSimulator, (f m).toRobot⟩) := .wrote phase found _
      rw [← keeps m] at step
      exact step

theorem walks_sense (write : ToRobot → ToRobot) :
    Walks kind (update fun m => { m with toRobot := write m.toRobot } : Talk σ Unit) :=
  walks_update fun _ => rfl

theorem handOver_steps {s : Session σ} {m : Message}
    (found : s.world.space.content? s.connection.endpoint.region.id = some m)
    (asked : ∀ mode, m.mode? = some mode → kind mode) :
    Ends handOver s fun _ t => Steps kind s t := by
  cases phase : s.connection.endpoint.phase with
  | waiting =>
    have refused := Endpoint.finish_of_waiting s.connection.endpoint s.world.space (by simp [phase])
    exact steps_of_same (by simp [handOver, refused, Except.mapError])
  | active =>
    by_cases room : s.world.space.count s.connection.endpoint.own.id < Space.maxCount
    · exact .of_run (run_handOver phase room) (.single (.passed phase found asked room))
    · have full := Endpoint.finish_of_full s.connection.endpoint s.world.space phase room
      exact steps_of_same (by simp [handOver, full, Except.mapError])

theorem walks_hand {mode : Mode} (asked : kind mode) {rest : Talk σ β} (walks : Walks kind rest) :
    Walks kind (do
      update (·.setMode mode)
      handOver
      rest) := by
  intro s
  cases phase : s.connection.endpoint.phase with
  | waiting => exact .halt (run_update_waiting phase _) .refl
  | active =>
    cases found : s.world.space.content? s.connection.endpoint.region.id with
    | none =>
      have missing := Endpoint.update_of_missing s.connection.endpoint _ phase
        (·.setMode mode) found
      refine .halt (t := s) (e := .channel (.regionNotFound s.connection.endpoint.names.region)) ?_
        .refl
      simp [update, missing, Except.mapError]
    | some m =>
      refine .step (run_update phase found _) ?_
      have step : Step kind s (s.wrote (m.setMode mode)) := .wrote phase found _
      have now : (s.wrote (m.setMode mode)).world.space.content?
          s.connection.endpoint.region.id = some (m.setMode mode) :=
        Space.content?_setContent found _
      have right (other : Mode) (same : (m.setMode mode).mode? = some other) : kind other := by
        cases (mode?_setMode m mode).symm.trans same
        exact asked
      apply (handOver_steps now right).bind
      · exact fun _ _ steps => .head step steps
      · exact fun _ t steps => (walks t).mono fun _ _ more => .head step (steps.trans more)

/-- A wait is over at once if the turn is there already, and else after a move of the peer. -/
theorem owes_awaitTurn : Owes kind (awaitTurn : Talk σ Bool) := by
  intro s
  cases phase : s.connection.endpoint.phase with
  | active => exact .of_run (run_awaitTurn_active phase) ⟨by simp, fun _ => .refl⟩
  | waiting =>
    cases here : s.world.space.take? s.connection.endpoint.other.id with
    | some t =>
      refine .of_run ((run_awaitTurn phase).trans (by rw [World.await, here]))
        ⟨fun _ => ?_, by simp⟩
      exact .single (.regained phase here)
    | none =>
      cases there : (Peer.move s.world.peer s.world.space).2.take?
        s.connection.endpoint.other.id with
      | some t =>
        refine .of_run ((run_awaitTurn phase).trans (by simp only [World.await, here, there]; rfl))
          ⟨fun _ => ?_, by simp⟩
        exact (Relation.ReflTransGen.single .elapsed).tail
          (Step.regained (s := s.elapsed) phase there)
      | none =>
        refine .of_run ((run_awaitTurn phase).trans (by simp only [World.await, here, there]; rfl))
          ⟨by simp, fun _ => ?_⟩
        exact .single .elapsed

theorem walks_exchange {mode : Mode} (asked : kind mode) :
    Walks kind (exchange mode : Talk σ Unit) :=
  walks_hand asked (owes_awaitTurn.bind counts_countExchange
    (walks_publishedFault.bind fun _ => .throw _))

theorem walks_awaitRobot (keepWaiting : Nat → σ → Bool) (fuel waited : Nat) :
    Walks kind (awaitRobot keepWaiting fuel waited) := by
  induction fuel generalizing waited with
  | zero => exact .pure _
  | succ fuel ih =>
    refine owes_awaitTurn.bind (counts_bind ?_) (walks_publishedFault.bind fun fault => ?_)
    · exact (walks_note _ _ _).bind fun _ => .pure _
    · cases fault with
      | some text => exact .throw _
      | none =>
        refine Within.get.bind fun t => ?_
        split
        · exact (walks_remark _).bind fun _ => ih (waited + 1)
        · exact .pure _

theorem walks_handshake (asked : kind .idle) (fuel : Nat) (keepWaiting : Nat → σ → Bool) :
    Walks kind (handshake fuel keepWaiting) :=
  walks_hand asked (walks_awaitRobot keepWaiting fuel 0)

theorem owes_awaitAnswer (name : String) (number : UInt64) (waits attempt : Nat) :
    Owes kind (awaitAnswer name number waits attempt : Talk σ Bool) := by
  induction waits generalizing attempt with
  | zero => exact fun s => .of_run (run_pure _ _) ⟨by simp, fun _ => .refl⟩
  | succ waits ih =>
    intro s
    apply (owes_awaitTurn s).bind
    · exact fun e t ⟨_, steps⟩ => ⟨by simp, fun _ => steps (by simp)⟩
    rintro (_ | _) t ⟨counted, steps⟩
    · refine .step (run_note _ _ _ _) ((ih (attempt + 1) _).mono fun r u ⟨came, missed⟩ => ?_)
      have noted (record : Record) : Steps kind s (t.noted record) :=
        (steps (by simp)).tail (.noted _)
      exact ⟨fun went => (noted _).trans (came went), fun went => (noted _).trans (missed went)⟩
    · exact .of_run (run_pure _ _) ⟨fun _ => counted rfl, by simp⟩

/-- What is written for a request goes by what the region held when it was made. -/
theorem walks_request (asked : kind .applyParameters) (wanted : RequestKind) (name : String)
    (value : Value) : Walks kind (request wanted name value : Talk σ Value) := by
  intro s
  cases phase : s.connection.endpoint.phase with
  | waiting => exact .of_run (run_request_waiting phase wanted name value) .refl
  | active =>
    cases found : s.world.space.content? s.connection.endpoint.region.id with
    | none =>
      have missing : s.connection.endpoint.snapshot s.world.space =
          .error (.regionNotFound s.connection.endpoint.names.region) := by
        rw [Endpoint.snapshot, found]
      exact steps_of_same
        (by simp [request, Endpoint.require_of_eq _ phase, missing, Except.mapError])
    | some m =>
      cases made : Request.make (s.connection.requests + 1) wanted name value with
      | error cause => exact .of_run (run_request_refused phase found made) .refl
      | ok q =>
        have read : s.connection.endpoint.snapshot s.world.space = .ok m := by
          rw [Endpoint.snapshot, found]
        have published : m.publish (s.connection.requests + 1) wanted name value =
            .ok ⟨m.toSimulator, { m.toRobot with request := q }⟩ := by
          rw [Message.publish, made]
          rfl
        unfold request
        refine .step (run_connection s) (.step (a := m) (t := s) ?_ ?_)
        · simp [Endpoint.require_of_eq _ phase, read, Except.mapError]
        refine .step (by rw [run_ofExcept, published]; rfl) (.step (run_update phase found _) ?_)
        refine .step (run_modify _ _) ?_
        have written : Steps kind s
            ((s.wrote (requesting m q)).numbered (s.connection.requests + 1)) :=
          (Relation.ReflTransGen.single (.wrote phase found _)).tail (.numbered _)
        have now : (s.wrote (requesting m q)).world.space.content?
            s.connection.endpoint.region.id = some (requesting m q) :=
          Space.content?_setContent found _
        have right (mode : Mode) (same : (requesting m q).mode? = some mode) : kind mode := by
          cases (mode?_setMode _ _).symm.trans same
          exact asked
        have handed := handOver_steps
          (s := (s.wrote (requesting m q)).numbered (s.connection.requests + 1)) now right
        apply handed.bind
        · exact fun _ _ steps => written.trans steps
        intro _ t steps
        refine ((owes_awaitAnswer _ _ _ _).bind (counts_bind ?_) ?_ t).mono
          fun _ _ more => written.trans (steps.trans more)
        · refine walks_message.bind fun m => (walks_ofExcept _).bind fun current => ?_
          exact (walks_note _ _ _).bind fun _ => .pure _
        · exact walks_publishedFault.bind fun _ => Within.of_same fun _ => rfl

theorem walks_setParameter (asked : kind .applyParameters) (name : String) (value : Value)
    (user : Bool) : Walks kind (setParameter name value user : Talk σ Value) :=
  (walks_request asked _ _ _).bind fun _ => (walks_note _ _ _).bind fun _ => .pure _

theorem walks_setParameters (asked : kind .applyParameters) (user : Bool)
    (values : List (String × Value)) : Walks kind (setParameters user values : Talk σ Unit) := by
  induction values with
  | nil => exact .pure _
  | cons p rest ih => exact (walks_setParameter asked _ _ _).bind fun _ => ih

theorem walks_loadFile (asked : kind .applyParameters) (path : String) (file : Config.File)
    (user : Bool) : Walks kind (loadFile path file user : Talk σ Nat) :=
  (walks_ofExcept _).bind fun values => (walks_setParameters asked user values).bind fun _ =>
    (walks_note _ _ _).bind fun _ => .pure _

def Leaves (kind : Mode → Prop) (s t : Session σ) : Prop :=
  ∃ u, Steps kind s u ∧ (close.run u).2 = t

theorem leaves_close {s u : Session σ} (steps : Steps kind s u) :
    Ends close u fun _ t => Leaves kind s t := ⟨u, steps, rfl⟩

theorem dismiss_ends (asked : kind .exit) (s : Session σ) :
    Ends (tryCatch (exchange .exit) fun e => do
        close
        throw e) s fun r t =>
      (∀ b, r = .ok b → Steps kind s t) ∧ (∀ e, r = .error e → Leaves kind s t) := by
  apply (walks_exchange asked s).rescue
  · exact fun _ t steps => ⟨fun _ _ => steps, fun _ failed => nomatch failed⟩
  · intro e t steps
    apply (leaves_close steps).bind
    · exact fun _ _ leaves => ⟨fun _ went => (nomatch went), fun _ _ => leaves⟩
    · exact fun _ _ leaves =>
        .of_run (run_throw _ _) ⟨fun _ went => (nomatch went), fun _ _ => leaves⟩

theorem leaves_exit (asked : kind .exit) (s : Session σ) :
    Ends exit s fun _ t => Leaves kind s t := by
  unfold exit
  refine .step (run_connection s) (.step (run_note _ _ _ _) ?_)
  generalize same : s.noted _ = u
  have noted : Steps kind s u := same ▸ .single (.noted _)
  split
  · apply (dismiss_ends asked u).bind
    · intro e t ⟨_, leaves⟩
      obtain ⟨v, steps, closed⟩ := leaves e rfl
      exact ⟨v, noted.trans steps, closed⟩
    · exact fun b t ⟨steps, _⟩ => leaves_close (noted.trans (steps b rfl))
  · exact leaves_close noted

end Talk

namespace Running

/-- The session of a run came from one to the other by steps. -/
def Reached (kind : Mode → Prop) (d e : Drill σ) : Prop := Steps kind d.session e.session

instance : IsPreorder (Drill σ) (Reached kind) where
  refl _ := .refl
  trans _ _ _ first second := Relation.ReflTransGen.trans first second

theorem within_talk {t : Talk σ β} (walks : Walks kind t) : Within (Reached kind) (talk t) :=
  fun d => walks d.session

theorem within_noteStop : Within (Reached kind) (noteStop : Running σ Unit) :=
  within_talk (Talk.walks_note _ _ _)

theorem within_cycle (asked : kind .runController) (period : Duration) :
    Within (Reached kind) (cycle period : Running σ Unit) := by
  unfold cycle
  refine Within.get.bind fun d => ?_
  refine (within_talk (Talk.walks_sense d.plant.feedback)).bind fun _ => ?_
  refine (within_talk (Talk.walks_exchange asked)).bind fun _ => ?_
  refine (within_talk Talk.walks_message).bind fun m => ?_
  refine (Within.modify fun _ => .refl).bind fun _ => ?_
  exact within_talk fun s => .of_run (run_modify _ _) (.single (.noted _))

theorem within_cycles (asked : kind .runController) (running : σ → Bool) (budget : Option Nat)
    (period : Duration) (fuel : Nat) :
    Within (Reached kind) (cycles running budget period fuel) := by
  induction fuel with
  | zero => exact .pure _
  | succ fuel ih =>
    refine Within.get.bind fun d => ?_
    have going : Within (Reached kind) (if budget.all (d.cycles < ·) then do
          cycle period
          cycles running budget period fuel
        else return true) := by
      split
      · exact (within_cycle asked period).bind fun _ => ih
      · exact .pure _
    split
    · exact within_noteStop.bind fun _ => .pure _
    · exact going

theorem within_sendFile (asked : kind .applyParameters) (files : Config.Files)
    (path : Option String) (user : Bool) :
    Within (Reached kind) (sendFile files path user : Running σ Nat) := by
  cases path with
  | none => exact .pure _
  | some path => exact within_talk (Talk.walks_loadFile asked path (files path) user)

theorem within_body (any : ∀ mode, kind mode) (settings : Config.SimulatorSettings)
    (files : Config.Files) (running : σ → Bool) (fuel : Nat) :
    Within (Reached kind) (body settings files running fuel) := by
  unfold body
  refine Within.get.bind fun d => ?_
  refine (within_talk (Talk.walks_sense d.plant.feedback)).bind fun _ => ?_
  refine (within_talk (Talk.walks_handshake (any _) fuel _)).bind fun came => ?_
  match came with
  | none => exact .pure _
  | some false => exact within_noteStop.bind fun _ => .pure _
  | some true =>
    refine (within_sendFile (any _) files _ false).bind fun _ => ?_
    refine (within_sendFile (any _) files _ true).bind fun _ => ?_
    refine (within_cycles (any _) running _ _ fuel).bind fun ended => ?_
    split
    · exact .pure _
    · exact .pure _

end Running

/-- What can be done with a connection, or goes on between two such things. -/
inductive Call (σ : Type) where
  | handshake (fuel : Nat) (keepWaiting : Nat → σ → Bool)
  | exchange (mode : Mode)
  | set (name : String) (value : Value) (user : Bool)
  | get (name : String) (kind : Kind) (user : Bool)
  | load (path : String) (file : Config.File) (user : Bool)
  | sense (write : ToRobot → ToRobot)
  -- The simulator is busy with something else while its peer moves.
  | pause

namespace Call

def talk : Call σ → Talk σ Unit
  | handshake fuel keepWaiting => do
    let _ ← Talk.handshake fuel keepWaiting
  | exchange mode => Talk.exchange mode
  | set name value user => do
    let _ ← Talk.setParameter name value user
  | get name kind user => do
    let _ ← Talk.getParameter name kind user
  | load path file user => do
    let _ ← Talk.loadFile path file user
  | sense write => Talk.update fun m => { m with toRobot := write m.toRobot }
  | pause => modify elapsed

/-- Calls one after the other, whatever becomes of each. -/
def run (calls : List (Call σ)) (s : Session σ) : Session σ :=
  calls.foldl (fun s call => (call.talk.run s).2) s

theorem walks (any : ∀ mode, kind mode) (call : Call σ) : Walks kind call.talk := by
  cases call with
  | handshake fuel keepWaiting => exact (Talk.walks_handshake (any _) fuel keepWaiting).ignore
  | exchange mode => exact Talk.walks_exchange (any mode)
  | set name value user => exact (Talk.walks_setParameter (any _) name value user).ignore
  | get name wanted user => exact (Talk.walks_request (any _) _ _ _).ignore
  | load path file user => exact (Talk.walks_loadFile (any _) path file user).ignore
  | sense write => exact Talk.walks_sense write
  | pause => exact fun s => .of_run (run_modify _ _) (.single .elapsed)

theorem steps_run (any : ∀ mode, kind mode) (calls : List (Call σ)) (s : Session σ) :
    Steps kind s (run calls s) := by
  induction calls generalizing s with
  | nil => exact .refl
  | cons call rest ih => exact (call.walks any s).trans (ih _)

end Call

namespace Headless

theorem leaves_conclude (asked : kind .exit) (progress : Progress) (cycles : Nat)
    (s : Session σ) : Ends (conclude progress cycles) s fun _ t => Talk.Leaves kind s t := by
  cases progress with
  | unattended =>
    refine .step (Talk.run_note _ _ _ _) ?_
    apply (Talk.leaves_close (.single (.noted _))).bind
    · exact fun _ _ leaves => leaves
    · exact fun _ _ leaves => .of_run (run_pure _ _) leaves
  | finished parameters =>
    refine .step (Talk.run_note _ _ _ _) ?_
    generalize same : s.noted _ = u
    have noted : Steps kind s u := same ▸ .single (.noted _)
    have further {t : Session σ} (leaves : Talk.Leaves kind u t) : Talk.Leaves kind s t := by
      obtain ⟨v, steps, closed⟩ := leaves
      exact ⟨v, noted.trans steps, closed⟩
    apply (Talk.leaves_exit asked u).bind
    · exact fun _ _ leaves => further leaves
    · exact fun _ _ leaves => .of_run (run_pure _ _) (further leaves)

/-- A run that got its channel leaves it, if it ends at all. -/
theorem run_leaves (any : ∀ mode, kind mode) {h h' : Headless} {fuel : Nat}
    {files : Config.Files} {running : σ → Bool} {w w' made : World Message σ}
    {connection : Connection} {r : Except Error Summary}
    (created : (Connection.create h.settings.channel h.settings.robot
      ⟨h.settings.turnTimeout, h.settings.retries⟩ false).run w = (.ok connection, made))
    (ran : h.run fuel files running w = (some r, h', w')) :
    ∃ t, Talk.Leaves kind ⟨connection, made⟩ t ∧ t.world = w' := by
  have bodied := Running.within_body any h.settings files running fuel
    ⟨⟨connection, made⟩, h.plant, h.cycles⟩
  unfold Ends at bodied
  simp only [run, created] at ran
  generalize (Running.body h.settings files running fuel).run _ = ended at bodied ran
  obtain ⟨e | _ | progress, d⟩ := ended
  · cases ran
    exact ⟨_, ⟨_, bodied, rfl⟩, rfl⟩
  · cases ran
  · cases ran
    obtain ⟨u, steps, closed⟩ := leaves_conclude (any _) progress d.cycles d.session
    exact ⟨_, ⟨u, bodied.trans steps, closed⟩, rfl⟩

end Headless

end Lockstep.Simulator
