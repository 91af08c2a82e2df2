import Lockstep.Simulator.Connection
import Lockstep.Simulator.Plant

/-! A simulator without a viewer.

It creates a channel, waits for a robot, sends it the parameter files, and then
lets plant and controller take turns until the turns are used or someone asks
it to stop. Whatever happens, the channel is taken down at the end.
-/

set_option autoImplicit false

namespace Lockstep.Simulator

open Channel

structure Summary where
  -- Whether a robot ever answered.
  attached : Bool
  parameters : Nat
  -- Controller turns of this simulator, those of earlier runs included.
  cycles : Nat
  deriving DecidableEq, Repr

structure Headless where
  settings : Config.SimulatorSettings
  plant : Plant
  cycles : Nat
  deriving DecidableEq

structure Drill (σ : Type) where
  session : Session σ
  plant : Plant
  cycles : Nat

abbrev Running (σ β : Type) := ExceptT Error (StateM (Drill σ)) β

/-- How far a run came before it takes its channel down. -/
inductive Progress where
  -- Someone asked to stop before a robot came.
  | unattended
  | finished (parameters : Nat)
  deriving DecidableEq, Repr

def plantRecord (p : Plant) : Record :=
  let firstLeg := p.positions ⟨0, by decide⟩
  let angles := String.intercalate ", " (firstLeg.toList.map Double.literal)
  ⟨.trace, "Plant step", [("steps", .number p.steps.toNat), ("q_fr", .text s!"[{angles}]")]⟩

namespace Running

variable {σ β : Type}

def talk (t : Talk σ β) : Running σ β := ExceptT.mk fun d =>
  let (result, session) := t.run d.session
  (result, { d with session := session })

def noteStop : Running σ Unit := talk (Talk.note .info "Received shutdown signal" [])

/-- Show the robot the plant, let it take a turn, and move the plant under its command. -/
def cycle [Peer Message σ] (period : Duration) : Running σ Unit := do
  let plant := (← get).plant
  talk (Talk.update fun m => { m with toRobot := plant.feedback m.toRobot })
  talk Talk.runController
  let m ← talk Talk.message
  let moved := plant.step m.toSimulator period
  modify fun d => { d with plant := moved, cycles := d.cycles + 1 }
  talk (modify fun s => { s with world := s.world.note (plantRecord moved) })

/-- Cycles until the budget is used or someone asks to stop. Says whether it
came to that before the fuel was used. -/
def cycles [Peer Message σ] (running : σ → Bool) (budget : Option Nat) (period : Duration) :
    Nat → Running σ Bool
  | 0 => return false
  | fuel + 1 => do
    let d ← get
    if !running d.session.world.peer then
      noteStop
      return true
    if budget.all (d.cycles < ·) then
      cycle period
      cycles running budget period fuel
    else return true

def sendFile [Peer Message σ] (files : Config.Files) (path : Option String) (user : Bool) :
    Running σ Nat :=
  match path with
  | some path => talk (Talk.loadFile path (files path) user)
  | none => return 0

def body [Peer Message σ] (settings : Config.SimulatorSettings) (files : Config.Files)
    (running : σ → Bool) (fuel : Nat) : Running σ (Option Progress) := do
  let plant := (← get).plant
  talk (Talk.update fun m => { m with toRobot := plant.feedback m.toRobot })
  match ← talk (Talk.handshake fuel fun _ peer => running peer) with
  | none => return none
  | some false =>
    noteStop
    return some .unattended
  | some true =>
    let robotCount ← sendFile files settings.robotParameters false
    let userCount ← sendFile files settings.userParameters true
    if ← cycles running settings.iterations (.ofMicroseconds settings.period) fuel then
      return some (.finished (robotCount + userCount))
    return none

end Running

namespace Headless

variable {σ : Type}

def start (settings : Config.SimulatorSettings) : Headless :=
  ⟨settings, .start settings.robot, 0⟩

def create (settings : Config.SimulatorSettings) : Except Error Headless :=
  match settings.invalid? with
  | some cause => .error (.config (.invalid cause))
  | none => .ok (start settings)

def createRecord (settings : Config.SimulatorSettings) : Record :=
  let iterations := match settings.iterations with
    | some n => s!"Some({n})"
    | none => "None"
  ⟨.info, "Headless simulator created",
    [("robot", .text settings.robot.label), ("period_us", .number settings.period),
      ("iterations", .text iterations)]⟩

def conclude [Peer Message σ] (progress : Progress) (cycles : Nat) : Talk σ Summary := do
  match progress with
  | .unattended =>
    Talk.note .info "Shutdown requested before the robot attached" []
    Talk.close
    return ⟨false, 0, 0⟩
  | .finished parameters =>
    Talk.note .info "Controller loop stopped" [("cycles", .number cycles)]
    Talk.exit
    return ⟨true, parameters, cycles⟩

/-- One run on a channel of its own. Gives nothing if the fuel was used before
it was over. -/
def run [Peer Message σ] (fuel : Nat) (files : Config.Files) (running : σ → Bool) (h : Headless)
    (w : World Message σ) : Option (Except Error Summary) × Headless × World Message σ :=
  let s := h.settings
  match (Connection.create s.channel s.robot ⟨s.turnTimeout, s.retries⟩ false).run w with
  | (.error e, w) => (some (.error (.channel e)), h, w)
  | (.ok connection, w) =>
    let (result, d) := (Running.body s files running fuel).run ⟨⟨connection, w⟩, h.plant, h.cycles⟩
    let h := { h with plant := d.plant, cycles := d.cycles }
    match result with
    | .error e => (some (.error e), h, ((Talk.close (σ := σ)).run d.session).2.world)
    | .ok none => (none, h, d.session.world)
    | .ok (some progress) =>
      let (result, session) := (conclude progress d.cycles).run d.session
      (some result, h, session.world)

end Headless

end Lockstep.Simulator
