import Lockstep.Channel.Handle
import Lockstep.Config.Record
import Lockstep.Message
import Lockstep.Parameter.File
import Lockstep.Simulator.Error

/-! The simulator's side of a channel.

Every exchange hands the turn over once and then waits for it a bounded time.
A robot that does not give it back has failed, and its fault text says why.
-/

set_option autoImplicit false

namespace Lockstep.Simulator

open Channel Parameter

structure Options where
  -- Bound on one wait, in milliseconds.
  timeout : Nat
  -- Further waits for the answer to a parameter request.
  retries : Nat
  deriving DecidableEq, Repr

def Options.standard : Options := ⟨Config.standardTurnTimeout, Config.standardRetries⟩

structure Connection where
  endpoint : Endpoint
  robot : Robot
  options : Options
  requests : UInt64
  exchanges : Nat
  deriving DecidableEq

structure Session (σ : Type) where
  connection : Connection
  world : World Message σ

/-- Something that a simulator does over its connection; what was done before a
failure stays done. -/
abbrev Talk (σ β : Type) := ExceptT Error (StateM (Session σ)) β

namespace Talk

variable {σ β : Type}

def act (a : Act Message σ Channel.Error β) : Talk σ β := ExceptT.mk fun s =>
  let (result, world) := a.run s.world
  (result.mapError .channel, { s with world := world })

def note (level : Level) (message : String) (fields : List (String × FieldValue)) : Talk σ Unit :=
  modify fun s => { s with world := s.world.note ⟨level, message, fields⟩ }

def ofExcept (r : Except Error β) : Talk σ β := ExceptT.mk (pure r)

def connection : Talk σ Connection := return (← get).connection

def setEndpoint (e : Endpoint) : Talk σ Unit :=
  modify fun s => { s with connection := { s.connection with endpoint := e } }

def message : Talk σ Message := do
  let e := (← connection).endpoint
  act do Act.ofExcept (e.read (← Act.space))

def update (f : Message → Message) : Talk σ Unit := do
  let e := (← connection).endpoint
  act (Act.onSpace (e.update f))

def handOver : Talk σ Unit := do
  let e := (← connection).endpoint
  setEndpoint (← act (Act.onSpace e.finish))

def awaitTurn [Peer Message σ] : Talk σ Bool := do
  let e := (← connection).endpoint
  let (taken, e) ← act e.await
  setEndpoint e
  return taken

def countExchange : Talk σ Unit :=
  modify fun s =>
    { s with connection := { s.connection with exchanges := s.connection.exchanges + 1 } }

/-- The robot's fault text, whoever's turn it is. -/
def publishedFault : Talk σ (Option String) := do
  let s ← get
  match s.connection.endpoint.snapshot s.world.space with
  | .ok m => return m.toSimulator.faultText?
  | .error _ => return none

def exchange [Peer Message σ] (mode : Mode) : Talk σ Unit := do
  update (·.setMode mode)
  handOver
  if ← awaitTurn then countExchange
  else throw (.robotStalled (← publishedFault))

def probe [Peer Message σ] : Talk σ Unit := exchange .idle

def runController [Peer Message σ] : Talk σ Unit := exchange .runController

/-- Say after the first and after every tenth wait that nobody came. -/
def remark (waited : Nat) : Talk σ Unit := do
  if waited = 1 ∨ waited % 10 = 0 then
    note .info "Still waiting for the robot to attach"
      [("region", .text (← connection).endpoint.names.region)]

/-- Wait for a turn that was handed over until it comes back, the robot leaves a
fault text, or waiting is no longer wanted. Gives nothing when the fuel is used. -/
def awaitRobot [Peer Message σ] (keepWaiting : Nat → σ → Bool) : Nat → Nat → Talk σ (Option Bool)
  | 0, _ => return none
  | fuel + 1, waited => do
    if ← awaitTurn then
      countExchange
      note .info "Robot attached and answered" [("waited_turns", .number waited)]
      return some true
    match ← publishedFault with
    | some text => throw (.robotStalled (some text))
    | none =>
      if keepWaiting waited (← get).world.peer then
        remark (waited + 1)
        awaitRobot keepWaiting fuel (waited + 1)
      else return some false

/-- The first exchange. The robot may come late: the turn is handed over once
and lies there until it is taken. Says whether the robot answered. -/
def handshake [Peer Message σ] (fuel : Nat) (keepWaiting : Nat → σ → Bool) :
    Talk σ (Option Bool) := do
  update (·.setMode .idle)
  handOver
  awaitRobot keepWaiting fuel 0

def awaitAnswer [Peer Message σ] (name : String) (number : UInt64) : Nat → Nat → Talk σ Bool
  | 0, _ => return false
  | waits + 1, attempt => do
    if ← awaitTurn then return true
    note .warn "Robot has not answered parameter request yet"
      [("name", .text name), ("request", .number number.toNat), ("attempt", .number attempt)]
    awaitAnswer name number waits (attempt + 1)

def checkResponse (response : Message.Response) (number : UInt64) (kind : RequestKind)
    (name : String) : Except Error Value := do
  if response.number ≠ number then throw (.protocolViolation (.number response.number number))
  let echoed ← response.name.mapError .parameter
  if echoed ≠ name ∨ response.rawKind ≠ kind.code then
    throw (.protocolViolation (.subject echoed kind name))
  response.value.mapError .parameter

/-- Send a parameter request and give the value that the robot reports. A name
or a phase that does not allow it leaves everything as it was. -/
def request [Peer Message σ] (kind : RequestKind) (name : String) (value : Value) :
    Talk σ Value := do
  let c ← connection
  let number := c.requests + 1
  let m ← act do
    Act.ofExcept (c.endpoint.require .active .write)
    Act.ofExcept (c.endpoint.snapshot (← Act.space))
  let asked ← ofExcept ((m.publish number kind name value).mapError .parameter)
  update fun _ => asked.setMode .applyParameters
  modify fun s => { s with connection := { s.connection with requests := number } }
  handOver
  if !(← awaitAnswer name number (c.options.retries + 1) 0) then
    throw (.notAcknowledged name number (← publishedFault))
  countExchange
  let response := (← message).toSimulator.response
  let current ← ofExcept (checkResponse response number kind name)
  note .debug "Parameter response"
    [("request", .number number.toNat), ("kind", .text kind.label), ("name", .text name),
      ("current", .text current.text), ("n_parameters", .number response.parameterCount.toNat)]
  return current

def setParameter [Peer Message σ] (name : String) (value : Value) (user : Bool) :
    Talk σ Value := do
  let current ← request (.set user) name value
  note .info "Control parameter set on robot"
    [("name", .text name), ("value", .text value.text), ("user", .flag user)]
  return current

def getParameter [Peer Message σ] (name : String) (kind : Kind) (user : Bool) : Talk σ Value :=
  request (.get user) name (.zero kind)

def setParameters [Peer Message σ] (user : Bool) : List (String × Value) → Talk σ Unit
  | [] => return
  | (name, value) :: rest => do
    let _ ← setParameter name value user
    setParameters user rest

def loadFile [Peer Message σ] (path : String) (file : Config.File) (user : Bool) : Talk σ Nat := do
  let values ← ofExcept ((loadValues file).mapError .parameter)
  setParameters user values
  note .info "Parameter file sent to robot"
    [("path", .text path), ("count", .number values.length),
      ("table", .text (if user then "user" else "robot"))]
  return values.length

def close : Talk σ Unit := do
  let e := (← connection).endpoint
  act e.close

/-- Tell the robot to exit and take the channel down, whether it listens or not.
A robot that holds the turn cannot be told. -/
def exit [Peer Message σ] : Talk σ Unit := do
  let c ← connection
  note .info "Sending exit to robot" [("exchanges", .number c.exchanges)]
  if c.endpoint.phase = .active then
    try exchange .exit
    catch e =>
      close
      throw e
  close

end Talk

def Connection.create {σ : Type} (names : Names) (robot : Robot) (options : Options)
    (exclusive : Bool) : Act Message σ Channel.Error Connection := do
  let endpoint ← Endpoint.create names (Wire.Layout.size Message) exclusive
  Act.onSpace (endpoint.update fun m =>
    { m with toRobot := { m.toRobot with robotCode := robot.code } }.setMode .idle)
  Act.note .info "Simulator connection ready, waiting for the robot"
    [("robot", .text robot.label), ("region", .text names.region),
      ("timeout_ms", .number options.timeout)]
  return ⟨endpoint, robot, options, 0, 0⟩

end Lockstep.Simulator
