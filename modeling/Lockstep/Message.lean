import Lockstep.Message.Drawing
import Lockstep.Message.Exchange
import Lockstep.Message.Legs
import Lockstep.Message.Sensors
import Lockstep.Mode
import Lockstep.Text.Terminated

/-! The message that the two programs pass back and forth.

It has one half for each direction. The layout of the whole is what the two
programs must agree on.
-/

set_option autoImplicit false

namespace Lockstep

open Wire

namespace Message

/-- Bytes for the text of a fault, with the NUL that ends it. -/
def faultCapacity : Nat := 2056

structure ToRobot where
  gamepad : Gamepad
  robotCode : UInt32
  inertialUnit : InertialUnit
  body : BodyState
  spi : SpiFeedback
  boards : PerLeg BoardFeedback
  request : Request
  modeCode : UInt32
  deriving DecidableEq, Inhabited

instance : Layout ToRobot := .ofFields 64
  [.of "gamepad_command" ToRobot.gamepad fun v s => { s with gamepad := v },
   .of "robot_type" ToRobot.robotCode fun v s => { s with robotCode := v },
   .of "vector_nav" ToRobot.inertialUnit fun v s => { s with inertialUnit := v },
   .of "cheater_state" ToRobot.body fun v s => { s with body := v },
   .of "spi_data" ToRobot.spi fun v s => { s with spi := v },
   .of "ti_board_data" ToRobot.boards fun v s => { s with boards := v },
   .of "control_parameter_request" ToRobot.request fun v s => { s with request := v },
   .of "mode" ToRobot.modeCode fun v s => { s with modeCode := v }]

structure ToSimulator where
  robotCode : UInt32
  spi : SpiCommand
  boards : PerLeg BoardCommand
  drawing : Drawing
  pose : BodyPose
  response : Response
  -- Text of the fault that stopped the robot; empty while it is healthy.
  fault : Vector UInt8 faultCapacity
  deriving DecidableEq, Inhabited

instance : Layout ToSimulator := .ofFields 64
  [.of "robot_type" ToSimulator.robotCode fun v s => { s with robotCode := v },
   .of "spi_command" ToSimulator.spi fun v s => { s with spi := v },
   .of "ti_board_command" ToSimulator.boards fun v s => { s with boards := v },
   .of "visualization_data" ToSimulator.drawing fun v s => { s with drawing := v },
   .of "main_visualization" ToSimulator.pose fun v s => { s with pose := v },
   .of "control_parameter_response" ToSimulator.response fun v s => { s with response := v },
   .of "error_message" ToSimulator.fault fun v s => { s with fault := v }]

/-- Replace the fault text; what does not fit is cut off. -/
def ToSimulator.publishFault (half : ToSimulator) (text : String) : ToSimulator :=
  { half with fault := padded faultCapacity (Text.keptBytes faultCapacity text) }

def ToSimulator.faultText? (half : ToSimulator) : Option String :=
  match Text.terminatedBytes half.fault.toList with
  | [] => none
  | bytes => some (Text.Utf8.lossy bytes)

-- The legs as a controller sees them, whichever interface they hang on.

def ToRobot.positions (input : ToRobot) (robot : Robot) (leg : Leg) : PerJoint Single :=
  if robot.usesSpi then input.spi.q.column leg else (input.boards.get leg).q

def ToRobot.velocities (input : ToRobot) (robot : Robot) (leg : Leg) : PerJoint Single :=
  if robot.usesSpi then input.spi.qd.column leg else (input.boards.get leg).qd

/-- Enable a leg and give its joints their targets. Only boards take a torque limit. -/
def ToSimulator.command (output : ToSimulator) (robot : Robot) (leg : Leg)
    (joints : PerJoint JointTarget) (limit : Single) : ToSimulator :=
  if robot.usesSpi then { output with spi := output.spi.setLeg leg joints }
  else
    let board := (output.boards.get leg).setJoints joints limit
    { output with boards := output.boards.set leg board leg.isLt }

end Message

structure Message where
  toSimulator : Message.ToSimulator
  toRobot : Message.ToRobot
  deriving DecidableEq, Inhabited

namespace Message

instance : Layout Message := .ofFields 1
  [.of "robot_to_sim" Message.toSimulator fun v s => { s with toSimulator := v },
   .of "sim_to_robot" Message.toRobot fun v s => { s with toRobot := v }]

def mode? (m : Message) : Option Mode := Mode.ofCode? m.toRobot.modeCode

def setMode (m : Message) (mode : Mode) : Message :=
  { m with toRobot := { m.toRobot with modeCode := mode.code } }

def reply (m : Message) (half : ToSimulator) : Message := { m with toSimulator := half }

def publish (m : Message) (number : UInt64) (kind : Parameter.RequestKind) (name : String)
    (value : Parameter.Value) : Except Parameter.Error Message := do
  let request ← Request.make number kind name value
  return { m with toRobot := { m.toRobot with request := request } }

end Message

end Lockstep
