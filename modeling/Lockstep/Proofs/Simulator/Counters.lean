import Mathlib.Algebra.Group.Pi.Lemmas
import Lockstep.Proofs.Simulator.Audit
import Lockstep.Proofs.Simulator.Bills
import Lockstep.Proofs.Simulator.InProcess

/-! What a simulator gets for its turns, mode by mode.

The books are in order whenever the simulator has the turn, so what it counted between
two such moments was served by its crew, in the modes that it asked for. A run asks for
one turn to say hello, one for each parameter, one for each cycle and one for farewell.
-/

set_option autoImplicit false

namespace Lockstep

open Channel Message Parameter Effect

theorem Crew.Ledger.given_eq {lead exchanges : Nat} {crew : Crew} {s : Space Message} {m : Message}
    (ledger : crew.Ledger lead exchanges s m) : crew.given = crew.served .applyParameters +
      crew.served .runController + crew.served .idle + crew.served .exit := by
  have booked := ledger.booked
  unfold Crew.given Crew.served
  generalize crew.mates = mates at booked ⊢
  induction mates with
  | nil => rfl
  | cons mate rest ih =>
    obtain ⟨first, others⟩ := List.forall_mem_cons.mp booked
    have counted := ih others
    have modes := Bridge.length_modes mate.modes
    have completed := first.completed
    simp only [total, List.map_cons, List.sum_cons] at counted ⊢
    omega

namespace Simulator

theorem eq_add_single {f g : Mode → Nat} {mode : Mode} {n : Nat}
    (others : ∀ other, other ≠ mode → g other = f other)
    (sum : g .applyParameters + g .runController + g .idle + g .exit =
      f .applyParameters + f .runController + f .idle + f .exit + n) (other : Mode) :
    g other = f other + (Pi.single mode n : Mode → Nat) other := by
  by_cases same : other = mode
  · subst same
    rw [Pi.single_eq_same]
    have apply := others .applyParameters
    have run := others .runController
    have idle := others .idle
    have exit := others .exit
    cases other with
    | idle | applyParameters | runController | exit =>
      simp at apply run idle exit
      omega
  · rw [Pi.single_eq_of_ne same, others other same]
    rfl

def Only (mode other : Mode) : Prop := other = mode

theorem only (mode : Mode) : Only mode mode := rfl

/-- A simulator that has the turn and whose last request was answered. -/
structure Caught (s : Session Crew) (m : Message) : Prop where
  audited : Audited s m
  active : s.connection.endpoint.phase = .active
  number : m.toSimulator.response.number = s.connection.requests

structure Spent (turns : Mode → Nat) (s t : Session Crew) : Prop where
  requests : t.connection.requests.toNat = s.connection.requests.toNat + turns .applyParameters
  served : t.world.peer.deserted = false → s.world.peer.deserted = false ∧
    ∀ mode, t.world.peer.served mode = s.world.peer.served mode + turns mode

variable {s t u : Session Crew} {m : Message} {mode : Mode}

namespace Spent

theorem still (requests : t.connection.requests = s.connection.requests)
    (peer : t.world.peer = s.world.peer) : Spent 0 s t := by
  refine ⟨congrArg UInt64.toNat requests, ?_⟩
  rw [peer]
  exact fun stayed => ⟨stayed, fun _ => rfl⟩

theorem trans {turns more : Mode → Nat} (first : Spent turns s t) (second : Spent more t u) :
    Spent (turns + more) s u := by
  refine ⟨?_, fun stayed => ?_⟩
  · have before := first.requests
    have after := second.requests
    simp only [Pi.add_apply]
    omega
  · obtain ⟨between, after⟩ := second.served stayed
    obtain ⟨begun, before⟩ := first.served between
    refine ⟨begun, fun mode => ?_⟩
    rw [after mode, before mode, Pi.add_apply]
    exact Nat.add_assoc _ _ _

theorem none (mode : Mode) (s : Session Crew) : Spent (Pi.single mode 0) s s := by
  rw [Pi.single_zero]
  exact .still rfl rfl

theorem past {turns : Mode → Nat} (spent : Spent turns s t)
    (requests : u.connection.requests = t.connection.requests)
    (peer : u.world.peer = t.world.peer) : Spent turns s u := by
  have later := spent.trans (.still requests peer)
  rw [add_zero] at later
  exact later

theorem lone {turns : Mode → Nat} {mate : Mate} (spent : Spent turns s t)
    (none : s.world.peer.mates = []) (lone : t.world.peer.mates = [mate])
    (stayed : t.world.peer.deserted = false) (mode : Mode) :
    mate.modes.count mode = turns mode := by
  have counted := (spent.served stayed).2 mode
  unfold Crew.served at counted
  rw [none, lone] at counted
  exact counted.trans (Nat.zero_add _)

end Spent

namespace Caught

/-- Exchanges between two moments at which the simulator has the turn were served. -/
theorem served {exchanges : Nat} {requests : UInt64} (caught : Caught s m)
    (steps : Session.Steps (Only mode) s t) (billed : Billed exchanges requests s t) :
    ∃ m', Audited t m' ∧ Spans (Only mode) s m t m' ∧
      (t.world.peer.deserted = false → s.world.peer.deserted = false ∧
        ∀ other, t.world.peer.served other =
          s.world.peer.served other + (Pi.single mode exchanges : Mode → Nat) other) := by
  obtain ⟨audited, active, -⟩ := caught
  obtain ⟨m', after, spans⟩ := audited.steps (audited.heard active _) steps
  refine ⟨m', after, spans, fun stayed => ?_⟩
  have begun := spans.deserted stayed
  refine ⟨begun, eq_add_single (spans.served stayed) ?_⟩
  rw [← after.ledger.given_eq, ← audited.ledger.given_eq, (audited.active active).even begun,
    (after.active billed.active).even stayed]
  exact billed.exchanges

theorem exchanged {exchanges : Nat} (caught : Caught s m) (other : mode ≠ .applyParameters)
    (steps : Session.Steps (Only mode) s t) (billed : Billed exchanges 0 s t) :
    ∃ m', Caught t m' ∧ Spent (Pi.single mode exchanges) s t := by
  obtain ⟨m', after, spans, served⟩ := caught.served steps billed
  have requests : t.connection.requests = s.connection.requests :=
    billed.requests.trans (UInt64.add_zero _)
  refine ⟨m', ⟨after, billed.active, ?_⟩, ?_, served⟩
  · rw [spans.number fun applying => other applying.symm, caught.number, requests]
  · rw [requests, Pi.single_eq_of_ne other.symm]
    rfl

/-- Numbers of responses only go up, so a request that was answered did not start over. -/
theorem asked (caught : Caught s m) (steps : Session.Steps (Only .applyParameters) s t)
    (billed : Billed 1 1 s t) (answered : ∃ m,
      t.world.space.content? t.connection.endpoint.region.id = some m ∧
        m.toSimulator.response.number = t.connection.requests) :
    ∃ m', Caught t m' ∧ Spent (Pi.single .applyParameters 1) s t := by
  obtain ⟨m', after, spans, served⟩ := caught.served steps billed
  obtain ⟨m'', found, number⟩ := answered
  cases after.content.symm.trans found
  refine ⟨m', ⟨after, billed.active, number⟩, ?_, served⟩
  have rises := spans.rises
  rw [number, caught.number, billed.requests] at rises
  rw [billed.requests, Pi.single_eq_same]
  rw [UInt64.toNat_add] at rises ⊢
  have one : (1 : UInt64).toNat = 1 := rfl
  have bound := s.connection.requests.toNat_lt
  omega

theorem noted (caught : Caught s m) (r : Record) : Caught (s.noted r) m := by
  obtain ⟨⟨role, objects, ledger, own⟩, active, number⟩ := caught
  exact ⟨⟨role, objects, ledger, own⟩, active, number⟩

end Caught

namespace Talk

theorem exchange_spends (caught : Caught s m) (other : mode ≠ .applyParameters)
    (ran : (exchange mode).run s = (.ok (), t)) :
    ∃ m', Caught t m' ∧ Spent (Pi.single mode 1) s t := by
  have walks : Walks (Only mode) (exchange mode : Talk Crew Unit) := walks_exchange (only mode)
  exact caught.exchanged other (walks.of_run ran) (exchange_bills ran)

theorem handshake_spends {fuel : Nat} {keepWaiting : Nat → Crew → Bool} (caught : Caught s m)
    (ran : (handshake fuel keepWaiting).run s = (.ok (some true), t)) :
    ∃ m', Caught t m' ∧ Spent (Pi.single .idle 1) s t := by
  have walks : Walks (Only .idle) (handshake fuel keepWaiting) :=
    walks_handshake (only .idle) fuel _
  exact caught.exchanged (by decide) (walks.of_run ran) (handshake_bills ran)

theorem sense_spends {write : ToRobot → ToRobot} (caught : Caught s m)
    (ran : (update fun m => { m with toRobot := write m.toRobot }).run s = (.ok (), t)) :
    ∃ m', Caught t m' ∧ Spent 0 s t := by
  obtain ⟨audited, active, number⟩ := caught
  cases (run_update active audited.content _).symm.trans ran
  let none : Mode → Prop := fun _ => False
  obtain ⟨m', after, -, spans⟩ := audited.step (audited.heard active none)
    (.wrote active audited.content (write m.toRobot))
  exact ⟨m', ⟨after, active, (spans.number id).trans number⟩, .still rfl rfl⟩

theorem setParameter_spends {name : String} {value v : Parameter.Value} {user : Bool}
    (caught : Caught s m) (ran : (setParameter name value user).run s = (.ok v, t)) :
    ∃ m', Caught t m' ∧ Spent (Pi.single .applyParameters 1) s t := by
  obtain ⟨_, u, asked, ran⟩ := run_bind_ok ran
  cases ran
  have walks : Walks (Only .applyParameters)
      (request (.set user) name value : Talk Crew Parameter.Value) :=
    walks_request (only .applyParameters) _ _ _
  obtain ⟨billed, answered⟩ := request_bills asked
  obtain ⟨m', caught, spent⟩ := caught.asked (walks.of_run asked) billed answered
  exact ⟨m', caught.noted _, spent.past rfl rfl⟩

theorem setParameters_spends {user : Bool} {values : List (String × Parameter.Value)}
    (caught : Caught s m) (ran : (setParameters user values).run s = (.ok (), t)) :
    ∃ m', Caught t m' ∧ Spent (Pi.single .applyParameters values.length) s t := by
  induction values generalizing s m with
  | nil =>
    cases ran
    exact ⟨m, caught, .none _ _⟩
  | cons p rest ih =>
    obtain ⟨_, u, first, ran⟩ := run_bind_ok ran
    obtain ⟨m', between, one⟩ := setParameter_spends caught first
    obtain ⟨m'', after, more⟩ := ih between ran
    rw [List.length_cons, Nat.add_comm, Pi.single_add]
    exact ⟨m'', after, one.trans more⟩

theorem loadFile_spends {path : String} {file : Config.File} {user : Bool} {n : Nat}
    (caught : Caught s m) (ran : (loadFile path file user).run s = (.ok n, t)) :
    ∃ m', Caught t m' ∧ Spent (Pi.single .applyParameters n) s t := by
  obtain ⟨values, u, loaded, ran⟩ := run_bind_ok ran
  obtain ⟨-, rfl⟩ := Prod.mk.inj loaded
  obtain ⟨_, v, sent, ran⟩ := run_bind_ok ran
  cases ran
  obtain ⟨m', caught, spent⟩ := setParameters_spends caught sent
  exact ⟨m', caught.noted _, spent.past rfl rfl⟩

theorem exit_spends (caught : Caught s m) (ran : exit.run s = (.ok (), t)) :
    ∃ m', Caught t m' ∧ Spent (Pi.single .exit 1) s t := by
  obtain ⟨c, _, here, ran⟩ := run_bind_ok ran
  cases here
  obtain ⟨_, u, noted, ran⟩ := run_bind_ok ran
  cases noted
  rw [if_pos caught.active] at ran
  obtain ⟨_, v, told, ran⟩ := run_bind_ok ran
  rw [run_tryCatch] at told
  rcases exchanged : (exchange .exit : Talk Crew Unit).run _ with ⟨e | b, w⟩
  · rw [exchanged] at told
    obtain ⟨_, _, -, thrown⟩ := run_bind_ok told
    cases thrown
  · rw [exchanged] at told
    obtain ⟨-, rfl⟩ := Prod.mk.inj told
    obtain ⟨m', caught, spent⟩ := exchange_spends (caught.noted _) (by decide) exchanged
    have closed := caught.audited.close
    unfold Ends at closed
    rw [ran] at closed
    obtain ⟨connection, peer, after⟩ := closed
    have spent : Spent (Pi.single .exit 1) s w := ⟨spent.requests, spent.served⟩
    refine ⟨m', ⟨after, ?_, ?_⟩, spent.past (congrArg Connection.requests connection) peer⟩
    · rw [connection]
      exact caught.active
    · rw [connection]
      exact caught.number

end Talk

namespace Running

theorem talk_ran {β : Type} {x : Talk Crew β} {d e : Drill Crew} {b : β}
    (ran : (talk x).run d = (.ok b, e)) :
    x.run d.session = (.ok b, e.session) ∧ e.cycles = d.cycles := by
  rcases talked : x.run d.session with ⟨r, u⟩
  unfold talk at ran
  rw [run_mk, talked] at ran
  cases ran
  exact ⟨rfl, rfl⟩

variable {d e : Drill Crew}

theorem sendFile_spends {files : Config.Files} {path : Option String} {user : Bool} {n : Nat}
    (caught : Caught d.session m) (ran : (sendFile files path user).run d = (.ok n, e)) :
    e.cycles = d.cycles ∧
      ∃ m', Caught e.session m' ∧ Spent (Pi.single .applyParameters n) d.session e.session := by
  cases path with
  | none =>
    cases ran
    exact ⟨rfl, m, caught, .none _ _⟩
  | some path =>
    obtain ⟨sent, cycles⟩ := talk_ran ran
    exact ⟨cycles, Talk.loadFile_spends caught sent⟩

theorem cycle_spends {period : Duration} (caught : Caught d.session m)
    (ran : (cycle period).run d = (.ok (), e)) : e.cycles = d.cycles + 1 ∧
      ∃ m', Caught e.session m' ∧ Spent (Pi.single .runController 1) d.session e.session := by
  obtain ⟨_, _, here, ran⟩ := run_bind_ok ran
  cases here
  obtain ⟨_, f, shown, ran⟩ := run_bind_ok ran
  obtain ⟨_, g, moved, ran⟩ := run_bind_ok ran
  obtain ⟨m₀, h, read, ran⟩ := run_bind_ok ran
  obtain ⟨shown, first⟩ := talk_ran shown
  obtain ⟨moved, second⟩ := talk_ran moved
  obtain ⟨read, third⟩ := talk_ran read
  obtain ⟨m₁, caught, none⟩ := Talk.sense_spends caught shown
  obtain ⟨m₂, caught, one⟩ := Talk.exchange_spends caught (by decide) moved
  obtain ⟨same, -⟩ := Talk.message_reads read
  have spent := none.trans one
  rw [zero_add, ← same] at spent
  rw [← same] at caught
  cases ran
  have cycles : h.cycles = d.cycles := third.trans (second.trans first)
  exact ⟨congrArg (· + 1) cycles, m₂, caught.noted _, spent.past rfl rfl⟩

theorem cycles_spends {running : Crew → Bool} {budget : Option Nat} {period : Duration}
    {fuel : Nat} {ended : Bool} (caught : Caught d.session m)
    (ran : (cycles running budget period fuel).run d = (.ok ended, e)) :
    ∃ n m', e.cycles = d.cycles + n ∧ Caught e.session m' ∧
      Spent (Pi.single .runController n) d.session e.session := by
  induction fuel generalizing d m with
  | zero =>
    cases ran
    exact ⟨0, m, rfl, caught, .none _ _⟩
  | succ fuel ih =>
    obtain ⟨_, _, here, ran⟩ := run_bind_ok ran
    cases here
    cases asked : running d.session.world.peer with
    | false =>
      rw [asked] at ran
      cases ran
      exact ⟨0, m, rfl, caught.noted _, (Spent.none _ _).past rfl rfl⟩
    | true =>
      rw [asked] at ran
      simp only [Bool.not_true, Bool.false_eq_true, if_false] at ran
      split at ran
      · obtain ⟨_, f, moved, ran⟩ := run_bind_ok ran
        obtain ⟨first, m₁, between, one⟩ := cycle_spends caught moved
        obtain ⟨n, m₂, rest, after, more⟩ := ih between ran
        refine ⟨1 + n, m₂, by omega, after, ?_⟩
        rw [Pi.single_add]
        exact one.trans more
      · cases ran
        exact ⟨0, m, rfl, caught, .none _ _⟩

/-- A run that gets as far as its farewell said hello once and made every request that it
reports. -/
theorem body_spends {settings : Config.SimulatorSettings} {files : Config.Files}
    {running : Crew → Bool} {fuel n : Nat} (caught : Caught d.session m)
    (ran : (body settings files running fuel).run d = (.ok (some (.finished n)), e)) :
    ∃ k m', e.cycles = d.cycles + k ∧ Caught e.session m' ∧
      Spent (Pi.single .idle 1 + Pi.single .applyParameters n + Pi.single .runController k)
        d.session e.session := by
  obtain ⟨_, _, here, ran⟩ := run_bind_ok ran
  cases here
  obtain ⟨_, f, shown, ran⟩ := run_bind_ok ran
  obtain ⟨came, g, met, ran⟩ := run_bind_ok ran
  obtain ⟨shown, first⟩ := talk_ran shown
  obtain ⟨met, second⟩ := talk_ran met
  obtain ⟨m₁, caught, nothing⟩ := Talk.sense_spends caught shown
  match came with
  | none => cases ran
  | some false => cases ran
  | some true =>
    obtain ⟨robotCount, h, robotSent, ran⟩ := run_bind_ok ran
    obtain ⟨userCount, i, userSent, ran⟩ := run_bind_ok ran
    obtain ⟨ended, j, cycled, ran⟩ := run_bind_ok ran
    obtain ⟨m₂, caught, hello⟩ := Talk.handshake_spends caught met
    obtain ⟨third, m₃, caught, robot⟩ := sendFile_spends caught robotSent
    obtain ⟨fourth, m₄, caught, user⟩ := sendFile_spends caught userSent
    obtain ⟨k, m₅, fifth, caught, cycles⟩ := cycles_spends caught cycled
    cases ended with
    | false => cases ran
    | true =>
      cases ran
      have spent := (nothing.trans hello).trans ((robot.trans user).trans cycles)
      rw [zero_add, ← Pi.single_add, ← add_assoc] at spent
      refine ⟨k, m₅, ?_, caught, spent⟩
      rw [fifth, fourth, third, second, first]

end Running

namespace Headless

theorem conclude_spends {n cycles : Nat} {summary : Summary} (caught : Caught s m)
    (ran : (conclude (.finished n) cycles).run s = (.ok summary, t)) :
    summary = ⟨true, n, cycles⟩ ∧ ∃ m', Caught t m' ∧ Spent (Pi.single .exit 1) s t := by
  obtain ⟨_, u, noted, ran⟩ := run_bind_ok ran
  cases noted
  obtain ⟨_, v, left, ran⟩ := run_bind_ok ran
  obtain ⟨m', after, spent⟩ := Talk.exit_spends (caught.noted _) left
  cases ran
  exact ⟨rfl, m', after, ⟨spent.requests, spent.served⟩⟩

theorem run_attended {σ : Type} [Peer Message σ] {h h' : Headless} {fuel : Nat}
    {files : Config.Files} {running : σ → Bool} {w w' : World Message σ} {summary : Summary}
    (ran : h.run fuel files running w = (some (.ok summary), h', w'))
    (attached : summary.attached = true) :
    ∃ c made d n, (Connection.create h.settings.channel h.settings.robot
        ⟨h.settings.turnTimeout, h.settings.retries⟩ false).run w = (.ok c, made) ∧
      (Running.body h.settings files running fuel).run ⟨⟨c, made⟩, h.plant, h.cycles⟩ =
        (.ok (some (.finished n)), d) ∧
      ∃ t, (conclude (.finished n) d.cycles).run d.session = (.ok summary, t) ∧ t.world = w' := by
  unfold run at ran
  dsimp only at ran
  split at ran
  next => cases ran
  next c made created =>
    rcases bodied : (Running.body h.settings files running fuel).run ⟨⟨c, made⟩, h.plant, h.cycles⟩
      with ⟨e | _ | progress, d⟩
    · rw [bodied] at ran
      cases ran
    · rw [bodied] at ran
      cases ran
    · rw [bodied] at ran
      dsimp only at ran
      rcases concluded : (conclude progress d.cycles).run d.session with ⟨result, t⟩
      rw [concluded] at ran
      cases ran
      cases progress with
      | finished n => exact ⟨c, made, d, n, created, bodied, t, concluded, rfl⟩
      | unattended =>
        obtain ⟨_, _, -, went⟩ := run_bind_ok concluded
        obtain ⟨_, _, -, went⟩ := run_bind_ok went
        cases went
        cases attached

/-- A first run that reports that a robot was there asked for one turn to say hello, one for each
parameter, one for each cycle and one for farewell, and had them all back. -/
theorem run_spends {settings : Config.SimulatorSettings} {fuel : Nat} {files : Config.Files}
    {running : Crew → Bool} {space : Space Message} {plan : List (List Crew.Move)}
    {journal : Journal} {summary : Summary} {h : Headless} {w : World Message Crew}
    (new : ∀ moves ∈ plan, ∀ move ∈ moves, move.New)
    (ran : (start settings).run fuel files running
      ⟨space, .start ((start settings).connected space).endpoint.objects plan, journal⟩ =
        (some (.ok summary), h, w)) (attached : summary.attached = true) :
    ∃ s t m, Caught t m ∧ t.world = w ∧ s.connection.requests = 0 ∧ s.world.peer.mates = [] ∧
      Spent (Pi.single .idle 1 + Pi.single .applyParameters summary.parameters +
        Pi.single .runController summary.cycles + Pi.single .exit 1) s t := by
  obtain ⟨c, ⟨made, crew, noted⟩, d, n, created, bodied, t, concluded, rfl⟩ :=
    run_attended ran attached
  obtain ⟨rfl, rfl, rfl⟩ := Connection.create_ok created
  have audited := Audited.opened space settings.channel settings.robot
    ⟨settings.turnTimeout, settings.retries⟩ new noted
  have caught : Caught _ (opening settings.robot) := ⟨audited, rfl, rfl⟩
  obtain ⟨k, m', cycles, caught, before⟩ := Running.body_spends caught bodied
  obtain ⟨rfl, m'', caught, after⟩ := conclude_spends caught concluded
  have cycled : d.cycles = k := cycles.trans (Nat.zero_add k)
  have spent := before.trans after
  rw [← cycled] at spent
  refine ⟨_, t, m'', caught, rfl, ?_, ?_, spent⟩
  · rfl
  · rfl

structure Settled (stats : Bridge.Stats) (summary : Summary) : Prop where
  idle : stats.idleTurns = 1
  parameter : stats.parameterTurns = summary.parameters
  redundant : stats.redundantTurns = 0
  controller : stats.controllerTurns = summary.cycles
  turns : stats.turns = summary.parameters + summary.cycles + 2

theorem run_settles {settings : Config.SimulatorSettings} {fuel : Nat} {files : Config.Files}
    {running : Crew → Bool} {space : Space Message} {plan : List (List Crew.Move)}
    {journal : Journal} {summary : Summary} {h : Headless} {w : World Message Crew} {mate : Mate}
    (new : ∀ moves ∈ plan, ∀ move ∈ moves, move.New)
    (ran : (start settings).run fuel files running
      ⟨space, .start ((start settings).connected space).endpoint.objects plan, journal⟩ =
        (some (.ok summary), h, w)) (attached : summary.attached = true)
    (lone : w.peer.mates = [mate]) (stayed : w.peer.deserted = false) :
    Settled mate.bridge.program.stats summary := by
  obtain ⟨s, t, m, caught, rfl, fresh, alone, spent⟩ := run_spends new ran attached
  have modes := spent.lone alone lone stayed
  have idle : mate.modes.count .idle = 1 := (modes _).trans (by simp)
  have parameter : mate.modes.count .applyParameters = summary.parameters :=
    (modes _).trans (by simp)
  have controller : mate.modes.count .runController = summary.cycles := (modes _).trans (by simp)
  have exit : mate.modes.count .exit = 1 := (modes _).trans (by simp)
  obtain ⟨-, stats⟩ := caught.audited.ledger.booked mate (by simp [lone])
  have answered : mate.bridge.program.stats.redundantTurns + t.connection.requests.toNat =
      summary.parameters := by
    have answered := caught.audited.ledger.answered stayed
    unfold Crew.redundant Crew.served at answered
    rw [caught.number, lone] at answered
    exact answered.trans parameter
  have requests : t.connection.requests.toNat = summary.parameters := by
    have requests := spent.requests
    rw [fresh] at requests
    exact requests.trans (by simp)
  have all := Bridge.length_modes mate.modes
  refine ⟨stats.idle.trans idle, stats.parameter.trans parameter, by omega,
    stats.controller.trans controller, ?_⟩
  rw [stats.turns]
  omega

end Headless

/-- Whatever becomes of a connection, turn by turn, its counts and those of the robots on the
channel go together. After a first run that reports that a robot was there, a robot that was
the only one has counted one idle turn, one for each parameter, none of them redundant, one
for each cycle and one for farewell. -/
theorem counters_agree :
    (∀ (names : Names) (robot : Robot) (options : Options) (exclusive : Bool)
      (space : Space Message) (plan : List (List Crew.Move)) (journal : Journal)
      (c : Connection) (made : World Message Crew),
      (∀ moves ∈ plan, ∀ move ∈ moves, move.New) →
      (Connection.create names robot options exclusive).run
        ⟨space, .start c.endpoint.objects plan, journal⟩ = (.ok c, made) →
      (∀ calls, let s := Call.run calls ⟨c, made⟩
        Comes ⟨c, made⟩ s ∧ Comes ⟨c, made⟩ (Talk.exit.run s).2 ∧
          Comes ⟨c, made⟩ (Talk.close.run s).2) ∧
      ∀ t, Comes ⟨c, made⟩ t → Agree t) ∧
    (∀ (settings : Config.SimulatorSettings) (fuel : Nat) (files : Config.Files)
      (running : Crew → Bool) (space : Space Message) (plan : List (List Crew.Move))
      (journal : Journal) (summary : Summary) (h : Headless) (w : World Message Crew)
      (mate : Mate), (∀ moves ∈ plan, ∀ move ∈ moves, move.New) →
      let crew := Crew.start ((Headless.start settings).connected space).endpoint.objects plan
      (Headless.start settings).run fuel files running ⟨space, crew, journal⟩ =
        (some (.ok summary), h, w) → summary.attached = true →
      w.peer.mates = [mate] → w.peer.deserted = false →
      Headless.Settled mate.bridge.program.stats summary) := by
  constructor
  · intro names robot options exclusive space plan journal c made new created
    have audited : Audited ⟨c, made⟩ (opening robot) := by
      obtain ⟨made, crew, noted⟩ := made
      obtain ⟨same, rfl, rfl⟩ := Connection.create_ok created
      dsimp only at same ⊢
      subst same
      exact .opened space names robot options new noted
    refine ⟨fun calls => ?_, fun t comes => ?_⟩
    · have ran := Comes.of_steps (Call.steps_run (fun _ => trivial) calls ⟨c, made⟩)
      exact ⟨ran, ran.trans (Comes.of_leaves (Talk.leaves_exit trivial _)), ran.tail .closes⟩
    · obtain ⟨m, after⟩ := audited.comes comes
      exact after.agree
  · intro settings fuel files running space plan journal summary h w mate new crew ran attached
      lone stayed
    exact Headless.run_settles new ran attached lone stayed

/-- A robot that was alone through eleven parameters, one cycle, hello and farewell, and one whose
simulator has had two turns back. -/
theorem lone_robot_counted :
    (∃ h w mate, Headless.trial Headless.lone Headless.twoFiles (fun _ => true)
        Headless.fourteenTurns = (some (.ok ⟨true, 11, 1⟩), h, w) ∧
      w.peer.mates = [mate] ∧ w.peer.deserted = false ∧
      Headless.Settled mate.bridge.program.stats ⟨true, 11, 1⟩) ∧
    let w : World Message Crew := ⟨.empty, .start ⟨0, 0, 1⟩ Headless.fourteenTurns, #[]⟩
    ∃ c made, (Connection.create .standard .miniCheetah .standard false).run w = (.ok c, made) ∧
      w.peer.objects = c.endpoint.objects ∧
      let s := Call.run [.handshake 1 fun _ _ => true, .exchange .idle] ⟨c, made⟩
      s.connection.endpoint.phase = .active ∧ s.connection.exchanges = 2 ∧
        ∃ mate, s.world.peer.mates = [mate] ∧ mate.bridge.endpoint.completed = 2 := by
  obtain ⟨agree, settles⟩ := counters_agree
  have turn : ∀ move ∈ [Crew.Move.take 0, .serve 0], move.New :=
    List.forall_mem_cons.mpr ⟨trivial, List.forall_mem_singleton.mpr trivial⟩
  have new : ∀ moves ∈ Headless.fourteenTurns, ∀ move ∈ moves, move.New := by
    refine List.forall_mem_cons.mpr ⟨List.forall_mem_cons.mpr ⟨rfl, turn⟩, ?_⟩
    intro moves member
    rw [List.eq_of_mem_replicate member]
    exact turn
  constructor
  · obtain ⟨robot, user⟩ := Headless.twoFiles_loaded
    obtain ⟨told, -, alone, stayed⟩ := Headless.lone_ends robot user
    rcases ran : Headless.trial Headless.lone Headless.twoFiles (fun _ => true)
      Headless.fourteenTurns with ⟨r, h, w⟩
    rw [ran] at told alone stayed
    obtain rfl : r = some (.ok ⟨true, 11, 1⟩) := told
    obtain ⟨mate, lone⟩ := List.length_eq_one_iff.mp alone
    refine ⟨h, w, mate, rfl, lone, stayed, ?_⟩
    unfold Headless.trial at ran
    dsimp only at ran
    exact settles _ _ _ _ _ _ _ _ _ _ mate new ran rfl lone stayed
  · intro w
    have valid := Names.valid_standard
    obtain ⟨journal, made⟩ := Connection.create_forced valid .miniCheetah .standard w
    have created : (Connection.create .standard .miniCheetah .standard false).run w =
        (.ok (.created .empty .standard .miniCheetah .standard),
          ((Connection.create .standard .miniCheetah .standard false).run w).2) := by
      rw [made]
    obtain ⟨runs, all⟩ := agree _ _ _ _ .empty _ #[]
      (.created .empty .standard .miniCheetah .standard) _ new created
    have same := all _ (runs [.handshake 1 fun _ _ => true, .exchange .idle]).1
    generalize ran : (Call.run _ _ : Session Crew) = s at same
    have came : s.connection.endpoint.phase = .active ∧ s.connection.exchanges = 2 ∧
        s.world.peer.deserted = false ∧ s.world.peer.mates.length = 1 := by
      rw [← ran]
      decide +kernel
    obtain ⟨active, twice, stayed, alone⟩ := came
    obtain ⟨mate, lone⟩ := List.length_eq_one_iff.mp alone
    refine ⟨_, _, created, rfl, ?_⟩
    rw [ran]
    exact ⟨active, twice, mate, lone, (same.lone mate lone active stayed).symm.trans twice⟩

end Simulator

end Lockstep
