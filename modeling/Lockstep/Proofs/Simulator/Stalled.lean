import Lockstep.Proofs.Simulator.Candid
import Lockstep.Proofs.Simulator.Opening
import Lockstep.Proofs.Simulator.Request

/-! What a simulator hears of a robot that fails while it waits for it. -/

set_option autoImplicit false

namespace Lockstep.Simulator

open Channel Parameter Effect Crew

structure Frank (s : Session Crew) (m : Message) : Prop where
  role : s.connection.endpoint.role = .simulator
  objects : s.connection.endpoint.objects = s.world.peer.objects
  candid : Candid s.connection.endpoint.held s.world.peer s.world.space m

/-- Whatever turn a robot failed over, the call ends with the text of that. -/
def Reports {β : Type} (wrap : Option String → Error) (r : Except Error β) (t : Session Crew) :
    Prop :=
  ∀ e ∈ t.world.peer.raised, e.OfTurn → ∃ kept,
    Text.LongestPrefix (Message.faultCapacity - 1) kept e.message ∧ r = .error (wrap (some kept))

variable {s : Session Crew} {m : Message} {wrap : Option String → Error} {β : Type}

namespace Frank

theorem ids (frank : Frank s m) :
    s.connection.endpoint.region.id = s.world.peer.objects.region ∧
      s.connection.endpoint.own.id = s.world.peer.objects.simulator ∧
      s.connection.endpoint.other.id = s.world.peer.objects.robot :=
  Endpoint.ids_simulator frank.role frank.objects

theorem content (frank : Frank s m) :
    s.world.space.content? s.connection.endpoint.region.id = some m := by
  rw [frank.ids.1]
  exact frank.candid.afloat.content

theorem room (frank : Frank s m) :
    s.world.space.count s.connection.endpoint.own.id < Space.maxCount := by
  have few := frank.candid.few
  rw [frank.ids.2.1]
  unfold Crew.turns at few
  unfold Space.maxCount
  omega

theorem active (frank : Frank s m) (active : s.connection.endpoint.phase = .active) :
    Candid 1 s.world.peer s.world.space m := by
  have candid := frank.candid
  rw [Endpoint.held, if_pos active] at candid
  exact candid

theorem waiting (frank : Frank s m) (waiting : s.connection.endpoint.phase = .waiting) :
    Candid 0 s.world.peer s.world.space m := by
  have candid := frank.candid
  rw [Endpoint.held, if_neg (by simp [waiting])] at candid
  exact candid

theorem handed (frank : Frank s m) (active : s.connection.endpoint.phase = .active)
    (m' : Message) (requests : UInt64) : Frank (s.handed m' requests) m' := by
  obtain ⟨region, own, -⟩ := frank.ids
  unfold Session.handed
  rw [region, own]
  exact ⟨frank.role, frank.objects, (frank.active active).hand m'⟩

theorem counted (frank : Frank s m) : Frank s.counted m :=
  ⟨frank.role, frank.objects, frank.candid⟩

theorem noted (frank : Frank s m) (r : Record) : Frank (s.noted r) m :=
  ⟨frank.role, frank.objects, frank.candid⟩

theorem reports_active (frank : Frank s m) (active : s.connection.endpoint.phase = .active)
    (r : Except Error β) : Reports wrap r s :=
  fun e raised ofTurn => absurd ofTurn ((frank.active active).quiet e raised)

theorem reports_fault (frank : Frank s m) (wrap : Option String → Error) :
    Reports wrap (.error (wrap m.toSimulator.faultText?) : Except Error β) s := by
  intro e raised ofTurn
  obtain ⟨-, kept, longest, text⟩ := frank.candid.told e raised ofTurn
  exact ⟨kept, longest, by rw [text]⟩

end Frank

def Unharmed (s : Session Crew) : Prop :=
  ∃ m, Frank s m ∧ s.connection.endpoint.phase = .waiting ∧
    ∀ e ∈ s.world.peer.raised, ¬ e.OfTurn

namespace Talk

theorem awaitTurn_frank (frank : Frank s m) (waiting : s.connection.endpoint.phase = .waiting) :
    Ends awaitTurn s fun r t => ∃ m', Frank t m' ∧
      ((r = .ok true ∧ t.connection.endpoint.phase = .active) ∨
        (r = .ok false ∧ t.connection.endpoint.phase = .waiting)) := by
  refine .of_run (run_awaitTurn waiting) ?_
  obtain ⟨m', candid, objects⟩ := (frank.waiting waiting).wait
  rw [frank.ids.2.2]
  generalize s.world.await s.world.peer.objects.robot = waited at candid objects ⊢
  obtain ⟨taken, w⟩ := waited
  dsimp only at candid objects ⊢
  have same : s.connection.endpoint.objects = w.peer.objects := frank.objects.trans objects.symm
  cases taken with
  | true => exact ⟨m', ⟨frank.role, same, candid⟩, .inl ⟨rfl, rfl⟩⟩
  | false =>
    have held : s.connection.endpoint.held = 0 := by simp [Endpoint.held, waiting]
    exact ⟨m', ⟨frank.role, same, held ▸ candid⟩, .inr ⟨rfl, waiting⟩⟩

theorem exchange_frank (frank : Frank s m) (active : s.connection.endpoint.phase = .active)
    (mode : Mode) : Ends (exchange mode) s (Reports .robotStalled) := by
  have waited := awaitTurn_frank (frank.handed active (m.setMode mode) s.connection.requests) rfl
  apply exchange_of_awaitTurn active frank.content frank.room waited
  · rintro t ⟨m', later, ⟨-, active⟩ | ⟨went, -⟩⟩
    · exact later.counted.reports_active active _
    · cases went
  · rintro t ⟨m', later, -⟩
    exact ⟨m', later.content, later.reports_fault .robotStalled⟩

/-- Whoever fails during one wait is heard after it, so the next begins with nobody failed. -/
theorem awaitRobot_frank (keepWaiting : Nat → Crew → Bool) (fuel waited : Nat)
    (unharmed : Unharmed s) :
    Ends (awaitRobot keepWaiting fuel waited) s (Reports .robotStalled) := by
  refine awaitRobot_of_awaitTurn Unharmed ?_ ?_ ?_ ?_ keepWaiting fuel waited unharmed
  · exact fun s ⟨_, _, waiting, _⟩ => waiting
  · intro s ⟨m, frank, waiting, quiet⟩
    refine (awaitTurn_frank frank waiting).mono ?_
    rintro r t ⟨m', later, ⟨rfl, phase⟩ | ⟨rfl, phase⟩⟩
    · refine ⟨fun _ record => ?_, nofun⟩
      exact (later.counted.noted record).reports_active phase _
    · refine ⟨nofun, fun _ => ⟨m', later.content, fun text said => ?_, fun silent => ?_⟩⟩
      · exact said ▸ later.reports_fault .robotStalled
      · refine ⟨m', later, phase, fun e raised ofTurn => ?_⟩
        obtain ⟨-, kept, -, said⟩ := later.candid.told e raised ofTurn
        cases silent.symm.trans said
  · exact fun s record ⟨m, frank, rest⟩ => ⟨m, frank.noted record, rest⟩
  · intro s ⟨m, frank, waiting, quiet⟩
    exact ⟨fun e raised ofTurn => absurd ofTurn (quiet e raised),
      fun e raised ofTurn => absurd ofTurn (quiet e raised)⟩

theorem handshake_frank (frank : Frank s m) (active : s.connection.endpoint.phase = .active)
    (fuel : Nat) (keepWaiting : Nat → Crew → Bool) :
    Ends (handshake fuel keepWaiting) s (Reports .robotStalled) := by
  apply handshake_of_awaitRobot active frank.content frank.room
  exact awaitRobot_frank keepWaiting fuel 0
    ⟨_, frank.handed active _ _, rfl, (frank.active active).quiet⟩

theorem awaitAnswer_frank (name : String) (number : UInt64) (waits attempt : Nat)
    (frank : Frank s m) (waiting : s.connection.endpoint.phase = .waiting) :
    Ends (awaitAnswer name number waits attempt) s fun r t => ∃ m', Frank t m' ∧
      ((r = .ok true ∧ t.connection.endpoint.phase = .active) ∨ r = .ok false) := by
  refine awaitAnswer_of_awaitTurn
    (fun _ t => ∃ m', Frank t m' ∧ t.connection.endpoint.phase = .waiting) ?_ ?_ ?_ name number
    attempt ⟨m, frank, waiting⟩
  · exact fun _ t ⟨_, _, waiting⟩ => waiting
  · intro _ t ⟨m, frank, waiting⟩
    refine (awaitTurn_frank frank waiting).mono ?_
    rintro r t ⟨m', later, ⟨rfl, phase⟩ | ⟨rfl, phase⟩⟩
    · exact ⟨fun _ => ⟨m', later, .inl ⟨rfl, phase⟩⟩, nofun⟩
    · exact ⟨nofun, fun _ record => ⟨m', later.noted record, phase⟩⟩
  · exact fun t ⟨m', later, _⟩ => ⟨m', later, .inr rfl⟩

theorem request_frank (frank : Frank s m) (active : s.connection.endpoint.phase = .active)
    (kind : RequestKind) (name : String) (value : Value) :
    Ends (request kind name value) s
      (Reports (.notAcknowledged name (s.connection.requests + 1))) := by
  cases made : Message.Request.make (s.connection.requests + 1) kind name value with
  | error cause =>
    exact .of_run (run_request_refused active frank.content made) (frank.reports_active active _)
  | ok q =>
    have waited := awaitAnswer_frank name (s.connection.requests + 1)
      (s.connection.options.retries + 1) 0
      (frank.handed active (requesting m q) (s.connection.requests + 1)) rfl
    apply request_of_awaitAnswer active frank.content frank.room made waited
    · rintro e t ⟨m', -, ⟨went, -⟩ | went⟩ <;> cases went
    · rintro t ⟨m', later, ⟨-, phase⟩ | went⟩
      · -- With the turn back nobody failed, whatever becomes of the response.
        exact ⟨phase, m', later.content, fun r _ => ⟨later.counted.reports_active phase r,
          fun record => (later.counted.noted record).reports_active phase r⟩⟩
      · cases went
    · rintro t ⟨m', later, -⟩
      exact ⟨m', later.content, later.reports_fault _⟩

end Talk

/-- A simulator that has the turn, and robots of which none failed over one before. -/
structure Poised (s : Session Crew) (m : Message) : Prop where
  role : s.connection.endpoint.role = .simulator
  phase : s.connection.endpoint.phase = .active
  objects : s.connection.endpoint.objects = s.world.peer.objects
  afloat : s.world.peer.Afloat s.world.space m
  alone : s.world.peer.turns s.world.space = 0
  plain : s.world.peer.Plain
  planned : ∀ moves ∈ s.world.peer.plan, ∀ move ∈ moves, move.Plain
  quiet : ∀ e ∈ s.world.peer.raised, ¬ e.OfTurn

theorem Poised.frank (poised : Poised s m) : Frank s m := by
  refine ⟨poised.role, poised.objects, ?_⟩
  rw [Endpoint.held, if_pos poised.phase]
  constructor
  case afloat => exact poised.afloat
  case few => rw [poised.alone]
  case plain => exact poised.plain
  case planned => exact poised.planned
  case told => exact fun e raised ofTurn => absurd ofTurn (poised.quiet e raised)

/-- Whatever makes a robot give up has a text that ends at no NUL. If that
happens while the simulator waits in a call, the call ends with as much of the
text as there is room for, cut between two characters. -/
theorem faults_heard (poised : Poised s m) :
    (∀ (p : Bridge.Program) (m' : Message) (e : Bridge.Error) (turn : Bridge.Turn), p.Plain →
      p.serve m' = (.error e, turn) →
      e.OfTurn ∧ e.message ≠ "" ∧ 0 ∉ Text.Utf8.encode e.message) ∧
    (∀ mode, Ends (Talk.exchange mode) s (Reports .robotStalled)) ∧
    (∀ fuel keepWaiting, Ends (Talk.handshake fuel keepWaiting) s (Reports .robotStalled)) ∧
    (∀ name value user, Ends (Talk.setParameter name value user) s
      (Reports (.notAcknowledged name (s.connection.requests + 1)))) ∧
    (∀ name kind user, Ends (Talk.getParameter name kind user) s
      (Reports (.notAcknowledged name (s.connection.requests + 1)))) := by
  have frank := poised.frank
  have active := poised.phase
  refine ⟨?_, ?_, ?_, ?_, ?_⟩
  · intro p m' e turn plain failed
    have cause := (Bridge.Program.serve_stays failed nofun).cause e rfl
    have legible := cause.legible plain
    exact ⟨cause.ofTurn, legible.some, Text.Utf8.zero_notMem_encode legible.plain⟩
  · exact fun mode => Talk.exchange_frank frank active mode
  · exact fun fuel keepWaiting => Talk.handshake_frank frank active fuel keepWaiting
  · intro name value user
    unfold Talk.setParameter
    apply (Talk.request_frank frank active (.set user) name value).bind
    · intro e t reports e' raised ofTurn
      obtain ⟨kept, longest, same⟩ := reports e' raised ofTurn
      cases same
      exact ⟨kept, longest, rfl⟩
    · intro current t reports
      refine .step (Talk.run_note _ _ _ _) (.of_run (run_pure _ _) fun e raised ofTurn => ?_)
      obtain ⟨kept, -, same⟩ := reports e raised ofTurn
      cases same
  · exact fun name kind user => Talk.request_frank frank active (.get user) name (.zero kind)

/-- A robot comes to a simulator that declares another one. -/
theorem mismatch_heard :
    let c : Connection := .created .empty .standard .cheetah3 .standard
    let robot := Bridge.Program.start .miniCheetah (.stand .fresh) .robot
    let plan := [[Move.join .standard robot, .take 0, .serve 0]]
    let s : Session Crew :=
      ⟨c, ⟨opened .empty .standard .cheetah3, .start c.endpoint.objects plan, #[]⟩⟩
    let e : Bridge.Error := .robotMismatch .miniCheetah Robot.cheetah3.code
    Poised s (opening .cheetah3) ∧ ((Talk.exchange .idle).run s).2.world.peer.raised = [e] ∧
      ∃ kept, Text.LongestPrefix (Message.faultCapacity - 1) kept e.message ∧
        ((Talk.exchange .idle).run s).1 = .error (.robotStalled (some kept)) := by
  intro c robot plan s e
  have synced := Synced.opened .empty .standard .cheetah3 .standard plan #[]
  have plain : robot.Plain := by
    refine ⟨⟨by decide, by decide⟩, fun t own => ?_⟩
    cases own
    exact ⟨by decide, by decide⟩
  have poised : Poised s (opening .cheetah3) := by
    constructor
    case role => rfl
    case phase => rfl
    case objects => rfl
    case afloat => exact synced.tally.afloat
    case alone => rfl
    case plain => exact fun mate none => absurd none List.not_mem_nil
    case planned =>
      intro moves member move inside
      obtain rfl := List.mem_singleton.mp member
      simp only [List.mem_cons, List.not_mem_nil, or_false] at inside
      obtain rfl | rfl | rfl := inside
      · exact plain
      · trivial
      · trivial
    case quiet => exact fun e none => absurd none List.not_mem_nil
  have raised : ((Talk.exchange .idle).run s).2.world.peer.raised = [e] := by decide +kernel
  have reports := (faults_heard poised).2.1 .idle
  exact ⟨poised, raised, reports e (raised ▸ List.mem_singleton_self e) trivial⟩

end Lockstep.Simulator
