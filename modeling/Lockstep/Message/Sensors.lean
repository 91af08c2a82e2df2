import Lockstep.Wire.Field

/-! What the simulator measures apart from the joints: gamepad, inertial unit, true body state. -/

set_option autoImplicit false

namespace Lockstep.Message

open Wire

structure Gamepad where
  buttons : UInt32
  leftStick : Vector Single 2
  rightStick : Vector Single 2
  leftTrigger : Single
  rightTrigger : Single
  deriving DecidableEq, Inhabited

instance : Layout Gamepad := .ofFields 1
  [.of "buttons" Gamepad.buttons fun v s => { s with buttons := v },
   .of "left_stick_analog" Gamepad.leftStick fun v s => { s with leftStick := v },
   .of "right_stick_analog" Gamepad.rightStick fun v s => { s with rightStick := v },
   .of "left_trigger_analog" Gamepad.leftTrigger fun v s => { s with leftTrigger := v },
   .of "right_trigger_analog" Gamepad.rightTrigger fun v s => { s with rightTrigger := v }]

namespace Gamepad

/-- Names of the buttons, from the lowest bit on. -/
def buttonNames : List String :=
  ["LEFT_BUMPER", "RIGHT_BUMPER", "LEFT_TRIGGER_BUTTON", "RIGHT_TRIGGER_BUTTON", "BACK", "START",
   "A", "B", "X", "Y", "LEFT_STICK_BUTTON", "RIGHT_STICK_BUTTON", "LOGITECH"]

def buttonMask : UInt32 := 0x1fff

def pressed (g : Gamepad) : UInt32 := g.buttons &&& buttonMask

def pressedNames (g : Gamepad) : List String :=
  buttonNames.zipIdx.filterMap fun (name, i) =>
    if g.pressed.toNat.testBit i then some name else none

/-- Replace the buttons; bits of no button are dropped. -/
def setButtons (bits : UInt32) (g : Gamepad) : Gamepad := { g with buttons := bits &&& buttonMask }

end Gamepad

/-- Inertial unit: specific force, turn rate, orientation (w, x, y, z). -/
structure InertialUnit where
  accelerometer : Vector Single 3
  gyro : Vector Single 3
  orientation : Vector Single 4
  deriving DecidableEq, Inhabited

instance : Layout InertialUnit := .ofFields 1
  [.of "accelerometer" InertialUnit.accelerometer fun v s => { s with accelerometer := v },
   .of "gyro" InertialUnit.gyro fun v s => { s with gyro := v },
   .of "quat" InertialUnit.orientation fun v s => { s with orientation := v }]

/-- True state of the body, known to a simulator only. -/
structure BodyState where
  orientation : Vector Double 4
  position : Vector Double 3
  angularVelocity : Vector Double 3
  velocity : Vector Double 3
  acceleration : Vector Double 3
  deriving DecidableEq, Inhabited

instance : Layout BodyState := .ofFields 1
  [.of "orientation" BodyState.orientation fun v s => { s with orientation := v },
   .of "position" BodyState.position fun v s => { s with position := v },
   .of "omega_body" BodyState.angularVelocity fun v s => { s with angularVelocity := v },
   .of "v_body" BodyState.velocity fun v s => { s with velocity := v },
   .of "acceleration" BodyState.acceleration fun v s => { s with acceleration := v }]

end Lockstep.Message
