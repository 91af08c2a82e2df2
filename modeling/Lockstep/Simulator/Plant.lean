import Lockstep.Duration
import Lockstep.Journal
import Lockstep.Message

/-! The joints of the simulated robot.

Every joint is a damped inertia under the torque that the robot commands. The
body hangs in the air at a fixed height and nothing touches the ground.
-/

set_option autoImplicit false

namespace Lockstep.Simulator

open Message

/-- Inertia of a joint, in kg m². -/
def jointInertia : Double := 0.02

/-- Friction of a joint, in N m s/rad. -/
def jointDamping : Double := 0.1

/-- Torque limit where the command has none, in N m. -/
def defaultTorqueLimit : Double := 18.0

/-- Height of the body, in m. -/
def stanceHeight : Double := 0.3

/-- Acceleration of free fall, in m/s². -/
def gravity : Single := 9.81

def foldedPose : PerJoint Double := #v[0.0, -1.2, 2.6]

/-- What moves one joint: the command in double precision, and its limit. -/
structure Drive where
  position : Double
  velocity : Double
  stiffness : Double
  damping : Double
  feedForward : Double
  limit : Double
  enabled : Bool
  deriving DecidableEq

def Drive.ofTarget (t : JointTarget) (limit : Double) (enabled : Bool) : Drive :=
  ⟨t.position.widen, t.velocity.widen, t.stiffness.widen, t.damping.widen, t.torque.widen, limit,
    enabled⟩

def Drive.torque (d : Drive) (position velocity : Double) : Double :=
  if d.enabled then
    let wanted := d.stiffness * (d.position - position) + d.damping * (d.velocity - velocity)
      + d.feedForward
    wanted.clamp (-d.limit) d.limit
  else .zero

/-- Torque limit that a board's command asks for; only a positive one counts. -/
def torqueLimit (asked : Single) : Double :=
  if Single.lt .zero asked then asked.widen else defaultTorqueLimit

def drives (robot : Robot) (command : ToSimulator) (leg : Leg) : PerJoint Drive :=
  if robot.usesSpi then
    let c := command.spi
    Vector.ofFn fun j =>
      .ofTarget ⟨(c.position.column leg).get j, (c.velocity.column leg).get j,
        (c.stiffness.column leg).get j, (c.damping.column leg).get j, (c.torque.column leg).get j⟩
        defaultTorqueLimit (c.flags.get leg ≠ 0)
  else
    let c := command.boards.get leg
    Vector.ofFn fun j =>
      .ofTarget ⟨c.position.get j, c.velocity.get j, c.stiffness.get j, c.damping.get j,
        c.torque.get j⟩ (torqueLimit c.maxTorque) (c.enable ≠ 0)

structure JointMotion where
  position : Double
  velocity : Double
  torque : Double
  deriving DecidableEq

/-- Move a joint for some seconds: the velocity first, and with it the position. -/
def JointMotion.advance (m : JointMotion) (d : Drive) (seconds : Double) : JointMotion :=
  let torque := d.torque m.position m.velocity
  let acceleration := (torque - jointDamping * m.velocity) / jointInertia
  let velocity := m.velocity + acceleration * seconds
  ⟨m.position + velocity * seconds, velocity, torque⟩

structure Plant where
  robot : Robot
  legs : PerLeg (PerJoint JointMotion)
  -- Steps so far; wraps around.
  steps : UInt32
  deriving DecidableEq

namespace Plant

def start (robot : Robot) : Plant :=
  ⟨robot, .replicate legCount (foldedPose.map fun q => ⟨q, .zero, .zero⟩), 0⟩

def positions (p : Plant) (leg : Leg) : PerJoint Double := (p.legs.get leg).map (·.position)

def velocities (p : Plant) (leg : Leg) : PerJoint Double := (p.legs.get leg).map (·.velocity)

def step (p : Plant) (command : ToSimulator) (duration : Duration) : Plant :=
  let seconds := duration.inSeconds
  { p with
    legs := Vector.ofFn fun leg =>
      (p.legs.get leg).zipWith (fun m d => m.advance d seconds) (drives p.robot command leg)
    steps := p.steps + 1 }

def rows (p : Plant) (quantity : JointMotion → Double) : JointTable :=
  Vector.ofFn fun j => Vector.ofFn fun leg => (quantity ((p.legs.get leg).get j)).narrow

def boardFeedback (p : Plant) (leg : Leg) (board : BoardFeedback) : BoardFeedback :=
  let joints := p.legs.get leg
  { board with
    q := joints.map (·.position.narrow)
    qd := joints.map (·.velocity.narrow)
    torque := joints.map (·.torque.narrow)
    loopCount := p.steps }

def feedback (p : Plant) (input : ToRobot) : ToRobot :=
  let joints :=
    if p.robot.usesSpi then
      { input with
        spi := ⟨p.rows (·.position), p.rows (·.velocity), .replicate legCount 1, 0⟩ }
    else
      { input with boards := Vector.ofFn fun leg => p.boardFeedback leg (input.boards.get leg) }
  { joints with
    inertialUnit := ⟨#v[.zero, .zero, gravity], .replicate 3 .zero, #v[.one, .zero, .zero, .zero]⟩
    body :=
      { orientation := #v[1.0, .zero, .zero, .zero]
        position := #v[.zero, .zero, stanceHeight]
        angularVelocity := .replicate 3 .zero
        velocity := .replicate 3 .zero
        acceleration := #v[.zero, .zero, gravity.widen] } }

end Plant

end Lockstep.Simulator
