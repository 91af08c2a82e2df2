import Lockstep.Bridge.Responder
import Lockstep.Bridge.Stats
import Lockstep.Controller

/-! One turn of a robot program.

A turn reads one half of the message and writes the other. It confirms the
robot that the simulator declares, then does what the mode asks for.
-/

set_option autoImplicit false

namespace Lockstep.Bridge

open Message Parameter

structure Program where
  robot : Robot
  controller : Controller
  parameters : Table
  -- Whether the simulator has declared the robot.
  confirmed : Bool
  -- Whether the controller was prepared.
  ready : Bool
  stats : Stats
  deriving DecidableEq

def Program.start (robot : Robot) (controller : Controller) (parameters : Table) : Program :=
  ⟨robot, controller, parameters, false, false, .fresh⟩

/-- A turn at work: the program, the half of the message that it writes, and what it notes. -/
structure Turn where
  program : Program
  output : ToSimulator
  records : List Record

/-- A part of a turn; what was done before an error stays done. -/
abbrev Serving := ExceptT Error (StateM Turn)

namespace Turn

def note (level : Level) (message : String) (fields : List (String × FieldValue)) : Serving Unit :=
  modify fun t => { t with records := t.records ++ [⟨level, message, fields⟩] }

def ofExcept {α : Type} (r : Except Error α) : Serving α := ExceptT.mk (pure r)

/-- Refuse a simulator that declares another robot. It is asked once. -/
def confirm (declared : UInt32) : Serving Unit := do
  let p := (← get).program
  if p.confirmed then return
  if Robot.ofCode? declared ≠ some p.robot then throw (.robotMismatch p.robot declared)
  modify fun t => { t with program := { t.program with confirmed := true } }
  note .info "Simulator robot type confirmed" [("robot", .text p.robot.label)]

def declareRobot : Serving Unit :=
  modify fun t => { t with output := { t.output with robotCode := t.program.robot.code } }

def decodeMode (code : UInt32) : Serving Mode :=
  match Mode.ofCode? code with
  | some mode => return mode
  | none => throw (.unknownMode code)

def applyParameters (input : ToRobot) : Serving Unit := do
  let t ← get
  let p := t.program
  let answer ← ofExcept (respond input.request t.output.response p.parameters p.controller.user?)
  let controller := match answer.user? with
    | some user => p.controller.setUser user
    | none => p.controller
  let stats := match answer.outcome with
    | .redundant _ _ => { p.stats with redundantTurns := p.stats.redundantTurns + 1 }
    | _ => p.stats
  set { t with
    program := { p with controller := controller, parameters := answer.robot, stats := stats }
    output := { t.output with response := answer.response }
    records := t.records ++ answer.records }

/-- Prepare the controller, once every parameter was written. -/
def prepare (input : ToRobot) : Serving Unit := do
  let p := (← get).program
  ofExcept (p.parameters.requireComplete.mapError .table)
  let userCount ← match p.controller.user? with
    | none => pure 0
    | some user => do
      ofExcept (user.requireComplete.mapError .table)
      pure user.size
  let all := p.parameters.size + userCount
  note .info s!"All {all} control parameters are initialized"
    [("robot_parameters", .number p.parameters.size), ("user_parameters", .number userCount)]
  let (result, controller) := p.controller.prepare p.robot input
  modify fun t => { t with program := { t.program with controller := controller } }
  ofExcept (result.mapError .controller)
  if let .stand _ := controller then
    note .info "Joint PD stand controller initialized" [("robot", .text p.robot.label)]
  modify fun t => { t with program := { t.program with ready := true } }

def runController (input : ToRobot) : Serving Unit := do
  if !(← get).program.ready then prepare input
  let t ← get
  let p := t.program
  let (result, controller, output) := p.controller.run p.robot p.parameters input t.output
  set { t with program := { p with controller := controller }, output := output }
  ofExcept (result.mapError .controller)

def serve (input : ToRobot) : Serving Mode := do
  confirm input.robotCode
  declareRobot
  let mode ← decodeMode input.modeCode
  match mode with
  | .applyParameters => applyParameters input
  | .runController => runController input
  | .idle => note .debug "Idle turn" []
  | .exit => note .info "Exit requested by the simulator" []
  return mode

end Turn

/-- One turn of a program: how it ended, and what there is then. -/
def Program.serve (p : Program) (m : Message) : Except Error Mode × Turn :=
  (Turn.serve m.toRobot).run ⟨p, m.toSimulator, []⟩

end Lockstep.Bridge
