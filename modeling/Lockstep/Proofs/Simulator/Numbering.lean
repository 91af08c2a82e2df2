import Lockstep.Proofs.Simulator.Loading
import Lockstep.Proofs.Simulator.Opening

/-! Whatever a simulator does over its connection, in any order and any phase,
and whatever its robots do meanwhile, every request is answered at most once and
under its own number.
-/

set_option autoImplicit false

namespace Lockstep.Simulator

open Channel Message Parameter Effect

structure Sensors where
  gamepad : Gamepad
  inertialUnit : InertialUnit
  body : BodyState
  spi : SpiFeedback
  boards : PerLeg BoardFeedback

def Sensors.write (x : Sensors) (half : ToRobot) : ToRobot :=
  { half with
    gamepad := x.gamepad
    inertialUnit := x.inertialUnit
    body := x.body
    spi := x.spi
    boards := x.boards }

/-- Something that is done with a connection, or by the robots between two such things. -/
inductive Command where
  | handshake (fuel : Nat) (keepWaiting : Nat → Crew → Bool)
  | exchange (mode : Mode)
  | set (name : String) (value : Value) (user : Bool)
  | get (name : String) (kind : Kind) (user : Bool)
  | load (path : String) (file : Config.File) (user : Bool)
  | sense (sensors : Sensors)
  | robots (moves : List Crew.Move)

namespace Command

def talk : Command → Talk Crew Unit
  | handshake fuel keepWaiting => do
    let _ ← Talk.handshake fuel keepWaiting
  | exchange mode => Talk.exchange mode
  | set name value user => do
    let _ ← Talk.setParameter name value user
  | get name kind user => do
    let _ ← Talk.getParameter name kind user
  | load path file user => do
    let _ ← Talk.loadFile path file user
  | sense sensors => Talk.update fun m => { m with toRobot := sensors.write m.toRobot }
  | robots moves => modify fun s =>
    let (crew, space) := Crew.acts moves s.world.peer s.world.space
    { s with world := ⟨space, crew, s.world.journal⟩ }

def cost : Command → Nat
  | set _ _ _ | get _ _ _ => 1
  | load _ file _ => fileCost file
  | _ => 0

/-- Faults of what the caller hands over, which are told before anything is sent. -/
def Refuses : Command → Parameter.Error → Prop
  | set name _ _, cause | get name _ _, cause => checkName name = .error cause
  | load _ file _, cause => loadValues file = .error cause
  | _, _ => False

/-- An error that blames nobody else for what it says about a name or a value. -/
def Own (c : Command) (e : Error) : Prop :=
  e.Foul → ∃ cause, e = .parameter cause ∧ c.Refuses cause

variable {s : Session Crew} {m : Message}

def After (s : Session Crew) (c : Command) (r : Except Error Unit) (t : Session Crew) : Prop :=
  ∃ m', Synced t m' ∧ t.connection.requests.toNat ≤ s.connection.requests.toNat + c.cost ∧
    t.connection.endpoint.region = s.connection.endpoint.region ∧ ∀ e, r = .error e → c.Own e

theorem after_of_ends {β : Type} {x : Talk Crew β} {c : Command} (kind : Mode → Prop)
    (ends : Ends x s fun r t => ∃ m', Synced t m' ∧ Later c.cost kind s t ∧
      ∀ e, r = .error e → c.Own e) : Ends (do let _ ← x) s (After s c) := by
  apply ends.bind
  · intro e t ⟨m', later, after, own⟩
    refine ⟨m', later, after.requests, after.region, ?_⟩
    intro e' same
    cases same
    exact own e rfl
  · intro b t ⟨m', later, after, _⟩
    exact .of_run (run_pure _ _) ⟨m', later, after.requests, after.region,
      fun _ failed => by cases failed⟩

theorem robots_ends (synced : Synced s m) (moves : List Crew.Move) :
    Ends (talk (.robots moves)) s (After s (.robots moves)) := by
  obtain ⟨m', tally, onward⟩ := synced.tally.acts moves
  refine .of_run (run_modify _ _) ⟨m', ?_, Nat.le_refl _, rfl, fun _ failed => by cases failed⟩
  refine ⟨synced.role, synced.objects.trans onward.objects.symm, tally, ?_⟩
  change s.connection.requests = _
  rw [onward.half]
  exact synced.numbered

/-- One command: the numbers are in order again, however it ends. -/
theorem ends (c : Command) (synced : Synced s m)
    (room : s.connection.requests.toNat + c.cost < UInt64.size) :
    Ends c.talk s (After s c) := by
  -- Modes do not matter here, so they are all of one kind.
  let any : Mode → Prop := fun _ => True
  have all (mode : Mode) : any mode := trivial
  cases c with
  | sense sensors =>
    refine (Talk.sense_ends synced fun half => (rfl : (sensors.write half).request = _)).mono ?_
    intro r t ⟨m', later, after, ends⟩
    refine ⟨m', later, (after any).requests, (after any).region, ?_⟩
    rintro e rfl foul
    exact absurd foul ends.1
  | robots moves => exact robots_ends synced moves
  | exchange mode =>
    apply (Talk.exchange_ends synced mode (all _)).mono
    intro r t ⟨m', later, _, after, ends⟩
    refine ⟨m', later, after.requests, after.region, ?_⟩
    rintro e rfl foul
    exact absurd foul ends.1
  | handshake fuel keepWaiting =>
    refine after_of_ends any ((Talk.handshake_ends keepWaiting fuel synced (all _)).mono ?_)
    intro r t ⟨m', later, after, ends⟩
    refine ⟨m', later, after, ?_⟩
    rintro e rfl foul
    exact absurd foul ends.1
  | set name value user =>
    refine after_of_ends any ((Talk.setParameter_ends synced (all _) room name value user).mono ?_)
    intro r t ⟨m', later, after, ends⟩
    refine ⟨m', later, after, ?_⟩
    rintro e rfl
    exact ends.1
  | get name kind user =>
    refine after_of_ends any
      ((Talk.request_ends synced (all _) room (.get user) name (.zero kind)).mono ?_)
    intro r t ⟨m', later, after, ends⟩
    refine ⟨m', later, after, ?_⟩
    rintro e rfl
    exact ends.1
  | load path file user =>
    refine after_of_ends any ((Talk.loadFile_ends path file user synced (all _) room).mono ?_)
    intro r t ⟨m', later, after, ends⟩
    refine ⟨m', later, after, ?_⟩
    rintro e rfl
    exact ends.1

/-- Commands one after the other, whatever becomes of each; gives what they came to. -/
def run : List Command → Session Crew → List (Except Error Unit) × Session Crew
  | [], s => ([], s)
  | c :: rest, s =>
    let (r, s) := c.talk.run s
    let (replies, s) := run rest s
    (r :: replies, s)

theorem run_cons (c : Command) (rest : List Command) (s : Session Crew) :
    run (c :: rest) s = ((c.talk.run s).1 :: (run rest (c.talk.run s).2).1,
      (run rest (c.talk.run s).2).2) := rfl

/-- Any number of commands. -/
theorem run_ends (commands : List Command) (synced : Synced s m)
    (room : s.connection.requests.toNat + total cost commands < UInt64.size) :
    (∃ m', Synced (run commands s).2 m') ∧
      (run commands s).2.connection.endpoint.region = s.connection.endpoint.region ∧
      ∀ c r, (c, r) ∈ commands.zip (run commands s).1 → ∀ e, r = .error e → c.Own e := by
  induction commands generalizing s m with
  | nil => exact ⟨⟨m, synced⟩, rfl, fun _ _ none => absurd none List.not_mem_nil⟩
  | cons c rest ih =>
    have shared : total cost (c :: rest) = c.cost + total cost rest := by
      simp [total]
    obtain ⟨m', later, few, region, own⟩ := c.ends synced (by omega)
    rw [run_cons]
    obtain ⟨after, same, rested⟩ := ih later (by omega)
    refine ⟨after, same.trans region, ?_⟩
    intro c' r member e failed
    obtain first | others := List.mem_cons.mp member
    · cases first
      exact own e failed
    · exact rested c' r others e failed

end Command

/-- What the numbers of requests and responses come to, and what nobody ever complains about. -/
structure Orderly (commands : List Command) (replies : List (Except Error Unit))
    (s : Session Crew) : Prop where
  numbers : ∃ m, s.world.space.content? s.connection.endpoint.region.id = some m ∧
    (s.connection.requests.toNat = m.toSimulator.response.number.toNat ∨
      s.connection.requests.toNat = m.toSimulator.response.number.toNat + 1) ∧
    (s.connection.endpoint.phase = .active →
      s.connection.requests = m.toSimulator.response.number)
  raised : ∀ e ∈ s.world.peer.raised, ¬ e.Breach
  processed : s.world.peer.processed.Nodup
  replies : ∀ c r, (c, r) ∈ commands.zip replies → ∀ e, r = .error e → c.Own e

theorem Synced.numbers {s : Session Crew} {m : Message} (synced : Synced s m) :
    (s.connection.requests.toNat = m.toSimulator.response.number.toNat ∨
      s.connection.requests.toNat = m.toSimulator.response.number.toNat + 1) ∧
    (s.connection.endpoint.phase = .active →
      s.connection.requests = m.toSimulator.response.number) := by
  rw [synced.numbered]
  constructor
  · obtain settled | ⟨pending, -⟩ := synced.tally.standing
    · left
      rw [settled.number]
    · right
      have more := UInt64.lt_iff_toNat_lt.mp pending.more
      have next : m.toRobot.request.number.toNat =
          (m.toSimulator.response.number.toNat + 1) % 2 ^ 64 := by
        rw [pending.next, UInt64.toNat_add]
        rfl
      have bound := m.toSimulator.response.number.toNat_lt
      omega
  · intro active
    exact (synced.active active).settled.number.symm

/-- From the creation of a channel on, and as long as the counter of requests
lasts, request and response differ by one number at most, and not at all while
the simulator has the turn. No robot finds a request that it cannot read or that
comes too early, none is set about twice, and no answer is refused. -/
theorem requests_in_order {σ : Type} {names : Names} {robot : Robot} {options : Options}
    {exclusive : Bool} {w w' : World Message σ} {c : Connection}
    (created : (Connection.create names robot options exclusive).run w = (.ok c, w'))
    (plan : List (List Crew.Move)) (journal : Journal) (commands : List Command)
    (lasts : total Command.cost commands < UInt64.size) :
    let done := Command.run commands ⟨c, ⟨w'.space, .start c.endpoint.objects plan, journal⟩⟩
    Orderly commands done.1 done.2 := by
  obtain ⟨rfl, space, -⟩ := Connection.create_ok created
  intro done
  have synced := Synced.opened w.space names robot options plan journal
  rw [← space] at synced
  have room : (0 : UInt64).toNat + total Command.cost commands < UInt64.size := by
    rw [UInt64.toNat_zero, Nat.zero_add]
    exact lasts
  obtain ⟨⟨m, after⟩, -, replies⟩ := Command.run_ends commands synced room
  exact ⟨⟨m, after.content, after.numbers⟩, after.tally.own, after.tally.once, replies⟩

/-- A robot that comes and answers, an empty name, and a request that nobody is there to answer. -/
theorem standard_requests_in_order :
    ∃ (c : Connection) (w : World Message Unit),
      (Connection.create .standard .miniCheetah .standard false).run ⟨.empty, (), #[]⟩ = (.ok c, w) ∧
      let program := Bridge.Program.start .miniCheetah .passive .robot
      let plan := [[Crew.Move.join .standard program, .take 0, .serve 0], [.take 0, .serve 0]]
      let commands : List Command :=
        [.handshake 2 fun _ _ => true, .set "stand_kp_joint" (.zero .vec3Double) false,
          .set "" (.zero .float) true, .get "stand_kp_joint" .vec3Double false]
      let done := Command.run commands ⟨c, ⟨w.space, .start c.endpoint.objects plan, #[]⟩⟩
      total Command.cost commands < UInt64.size ∧ Orderly commands done.1 done.2 := by
  have valid := Names.valid_standard
  obtain ⟨journal, created⟩ :=
    Connection.create_forced valid .miniCheetah .standard (⟨.empty, (), #[]⟩ : World Message Unit)
  have lasts (commands : List Command) (few : total Command.cost commands = 3) :
      total Command.cost commands < UInt64.size := by
    rw [few]
    decide
  exact ⟨_, _, created, lasts _ rfl, requests_in_order created _ _ _ (lasts _ rfl)⟩

end Lockstep.Simulator
