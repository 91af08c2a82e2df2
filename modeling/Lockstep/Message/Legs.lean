import Lockstep.Robot
import Lockstep.Wire.Field

/-! Joint feedback and joint commands, on the SPI blocks and on the boards of the legs.

The SPI blocks keep, for each quantity and each joint, the values of all legs
side by side; a board keeps everything of its own leg.
-/

set_option autoImplicit false

namespace Lockstep.Message

open Wire

structure JointTarget where
  position : Single
  velocity : Single
  stiffness : Single
  damping : Single
  torque : Single
  deriving DecidableEq, Inhabited

/-- A quantity of every joint: for each joint its values on the four legs. -/
abbrev JointTable := PerJoint (PerLeg Single)

namespace JointTable

def column (t : JointTable) (leg : Leg) : PerJoint Single := t.map (·.get leg)

def setColumn (t : JointTable) (leg : Leg) (values : PerJoint Single) : JointTable :=
  t.zipWith (fun row x => row.set leg x leg.isLt) values

end JointTable

def jointFields {σ : Type} (names : Vector String jointsPerLeg) (get : σ → JointTable)
    (set : JointTable → σ → σ) : List (Wire.Field σ) :=
  (List.finRange jointsPerLeg).map fun (j : Joint) =>
    .of (names.get j) (fun s => (get s).get j) fun row s => set ((get s).set j row j.isLt) s

structure SpiFeedback where
  q : JointTable
  qd : JointTable
  flags : PerLeg Int32
  status : Int32
  deriving DecidableEq, Inhabited

instance : Layout SpiFeedback := .ofFields 1 <|
  jointFields #v["q_abad", "q_hip", "q_knee"] SpiFeedback.q (fun v s => { s with q := v }) ++
  jointFields #v["qd_abad", "qd_hip", "qd_knee"] SpiFeedback.qd (fun v s => { s with qd := v }) ++
  [.of "flags" SpiFeedback.flags fun v s => { s with flags := v },
   .of "spi_driver_status" SpiFeedback.status fun v s => { s with status := v }]

/-- Joint commands of all legs over SPI; a leg with flag 0 is disabled. -/
structure SpiCommand where
  position : JointTable
  velocity : JointTable
  stiffness : JointTable
  damping : JointTable
  torque : JointTable
  flags : PerLeg Int32
  deriving DecidableEq, Inhabited

instance : Layout SpiCommand := .ofFields 1 <|
  jointFields #v["q_des_abad", "q_des_hip", "q_des_knee"]
    SpiCommand.position (fun v s => { s with position := v }) ++
  jointFields #v["qd_des_abad", "qd_des_hip", "qd_des_knee"]
    SpiCommand.velocity (fun v s => { s with velocity := v }) ++
  jointFields #v["kp_abad", "kp_hip", "kp_knee"]
    SpiCommand.stiffness (fun v s => { s with stiffness := v }) ++
  jointFields #v["kd_abad", "kd_hip", "kd_knee"]
    SpiCommand.damping (fun v s => { s with damping := v }) ++
  jointFields #v["tau_abad_ff", "tau_hip_ff", "tau_knee_ff"]
    SpiCommand.torque (fun v s => { s with torque := v }) ++
  [.of "flags" SpiCommand.flags fun v s => { s with flags := v }]

def SpiCommand.setLeg (c : SpiCommand) (leg : Leg) (joints : PerJoint JointTarget) :
    SpiCommand where
  position := c.position.setColumn leg (joints.map (·.position))
  velocity := c.velocity.setColumn leg (joints.map (·.velocity))
  stiffness := c.stiffness.setColumn leg (joints.map (·.stiffness))
  damping := c.damping.setColumn leg (joints.map (·.damping))
  torque := c.torque.setColumn leg (joints.map (·.torque))
  flags := c.flags.set leg 1 leg.isLt

structure BoardFeedback where
  footPosition : Vector Single 3
  footVelocity : Vector Single 3
  footForce : Vector Single 3
  q : PerJoint Single
  qd : PerJoint Single
  torque : PerJoint Single
  desiredTorque : PerJoint Single
  loopCount : UInt32
  busCount : UInt32
  microtime : UInt32
  deriving DecidableEq, Inhabited

instance : Layout BoardFeedback := .ofFields 1
  [.of "position" BoardFeedback.footPosition fun v s => { s with footPosition := v },
   .of "velocity" BoardFeedback.footVelocity fun v s => { s with footVelocity := v },
   .of "force" BoardFeedback.footForce fun v s => { s with footForce := v },
   .of "q" BoardFeedback.q fun v s => { s with q := v },
   .of "dq" BoardFeedback.qd fun v s => { s with qd := v },
   .of "tau" BoardFeedback.torque fun v s => { s with torque := v },
   .of "tau_des" BoardFeedback.desiredTorque fun v s => { s with desiredTorque := v },
   .of "loop_count_ti" BoardFeedback.loopCount fun v s => { s with loopCount := v },
   .of "ethercat_count_ti" BoardFeedback.busCount fun v s => { s with busCount := v },
   .of "microtime_ti" BoardFeedback.microtime fun v s => { s with microtime := v }]

/-- Command to the board of one leg; it is disabled while `enable` is 0. -/
structure BoardCommand where
  footPosition : Vector Single 3
  footVelocity : Vector Single 3
  footStiffness : Vector Single 3
  footDamping : Vector Single 3
  footForce : Vector Single 3
  torque : PerJoint Single
  position : PerJoint Single
  velocity : PerJoint Single
  stiffness : PerJoint Single
  damping : PerJoint Single
  enable : UInt32
  maxTorque : Single
  deriving DecidableEq, Inhabited

instance : Layout BoardCommand := .ofFields 1
  [.of "position_des" BoardCommand.footPosition fun v s => { s with footPosition := v },
   .of "velocity_des" BoardCommand.footVelocity fun v s => { s with footVelocity := v },
   .of "kp" BoardCommand.footStiffness fun v s => { s with footStiffness := v },
   .of "kd" BoardCommand.footDamping fun v s => { s with footDamping := v },
   .of "force_ff" BoardCommand.footForce fun v s => { s with footForce := v },
   .of "tau_ff" BoardCommand.torque fun v s => { s with torque := v },
   .of "q_des" BoardCommand.position fun v s => { s with position := v },
   .of "qd_des" BoardCommand.velocity fun v s => { s with velocity := v },
   .of "kp_joint" BoardCommand.stiffness fun v s => { s with stiffness := v },
   .of "kd_joint" BoardCommand.damping fun v s => { s with damping := v },
   .of "enable" BoardCommand.enable fun v s => { s with enable := v },
   .of "max_torque" BoardCommand.maxTorque fun v s => { s with maxTorque := v }]

def BoardCommand.setJoints (c : BoardCommand) (joints : PerJoint JointTarget) (limit : Single) :
    BoardCommand :=
  { c with
    torque := joints.map (·.torque)
    position := joints.map (·.position)
    velocity := joints.map (·.velocity)
    stiffness := joints.map (·.stiffness)
    damping := joints.map (·.damping)
    enable := 1
    maxTorque := limit }

end Lockstep.Message
