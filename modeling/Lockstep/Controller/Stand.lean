import Lockstep.Controller.Error
import Lockstep.Message
import Lockstep.Parameter.Table

/-! A controller that brings every leg from where it is to a home pose and holds it there.

The gains are parameters of the robot; pose, torque limit and the number of
iterations on the way are parameters of the controller.
-/

set_option autoImplicit false

namespace Lockstep.Controller

open Message Parameter

structure Stand where
  user : Table
  -- Where the joints were when the controller was prepared.
  start : PerLeg (PerJoint Single)
  iteration : Nat
  deriving DecidableEq

namespace Stand

def homePose : String := "home_pose"

def maxTorque : String := "max_torque"

def blendIterations : String := "blend_iterations"

def fresh : Stand :=
  ⟨.ofDeclarations "user"
      [(homePose, .vec3Double), (maxTorque, .float), (blendIterations, .s64)],
    .replicate legCount (.replicate jointsPerLeg .zero), 0⟩

/-- Note where the joints of the legs are, up to a leg that gives no numbers. -/
def recordStart (measured : Leg → PerJoint Single) : List Leg → Stand → Except Error Unit × Stand
  | [], c => (.ok (), c)
  | leg :: rest, c =>
    let q := measured leg
    if q.toList.all Single.isFinite then
      recordStart measured rest { c with start := c.start.set leg q leg.isLt }
    else (.error (.nonFinite .position leg), c)

def prepare (c : Stand) (robot : Robot) (input : ToRobot) : Except Error Unit × Stand :=
  match recordStart (input.positions robot) (List.finRange legCount) c with
  | (.ok (), c) => (.ok (), { c with iteration := 0 })
  | (.error e, c) => (.error e, c)

def required {α : Type} (get : Table → String → Option α) (kind : Kind) (t : Table)
    (name : String) : Except Error α :=
  match get t name with
  | some a => .ok a
  | none => .error (.parameter name kind)

def requiredTriple (t : Table) (name : String) : Except Error (PerJoint Single) :=
  (required Table.vec3Double? .vec3Double t name).map (·.map Double.narrow)

structure Plan where
  stiffness : PerJoint Single
  damping : PerJoint Single
  home : PerJoint Single
  limit : Single
  -- Share of the way to the home pose, at most 1.
  blend : Single

/-- Share of the way after the iterations so far. -/
def blendShare (iteration : Nat) (total : Int64) : Single :=
  if total ≤ 0 then .one
  else (Single.ofInt iteration / .ofInt total.toInt).minimum .one

def plan (c : Stand) (parameters : Table) : Except Error Plan := do
  let stiffness ← requiredTriple parameters Table.standStiffness
  let damping ← requiredTriple parameters Table.standDamping
  let home ← requiredTriple c.user homePose
  let limit ← required Table.float? .float c.user maxTorque
  let total ← required Table.s64? .s64 c.user blendIterations
  return ⟨stiffness, damping, home, limit, blendShare c.iteration total⟩

def Plan.targets (p : Plan) (start : PerJoint Single) : PerJoint JointTarget :=
  Vector.ofFn fun j =>
    ⟨start.get j + p.blend * (p.home.get j - start.get j), .zero, p.stiffness.get j,
      p.damping.get j, .zero⟩

/-- Command legs one after the other, up to one whose velocities are no numbers. -/
def commandLegs (c : Stand) (p : Plan) (robot : Robot) (input : ToRobot) :
    List Leg → ToSimulator → Except Error Unit × ToSimulator
  | [], output => (.ok (), output)
  | leg :: rest, output =>
    if (input.velocities robot leg).toList.all Single.isFinite then
      let targets := p.targets (c.start.get leg)
      commandLegs c p robot input rest (output.command robot leg targets p.limit)
    else (.error (.nonFinite .velocity leg), output)

def bodyMarker (position : Vector Double 3) : Sphere :=
  ⟨position.map Double.narrow, 0.05, #v[0.2, 0.6, 1.0, 0.7]⟩

def allPositions (robot : Robot) (input : ToRobot) : Vector Double (jointsPerLeg * legCount) :=
  Vector.ofFn fun i =>
    ((input.positions robot ⟨i / jointsPerLeg, Nat.div_lt_of_lt_mul i.isLt⟩).get
      ⟨i % jointsPerLeg, Nat.mod_lt _ (by decide)⟩).widen

def draw (robot : Robot) (input : ToRobot) (output : ToSimulator) : ToSimulator :=
  { output with
    pose := { output.pose with
      position := input.body.position
      orientation := input.body.orientation
      q := allPositions robot input }
    drawing := (output.drawing.clear.pushSphere (bodyMarker input.body.position)).2 }

/-- One iteration. Legs that were commanded before an error stay so. -/
def run (c : Stand) (robot : Robot) (parameters : Table) (input : ToRobot) (output : ToSimulator) :
    Except Error Unit × Stand × ToSimulator :=
  match c.plan parameters with
  | .error e => (.error e, c, output)
  | .ok p =>
    match c.commandLegs p robot input (List.finRange legCount) output with
    | (.error e, output) => (.error e, c, output)
    | (.ok (), output) => (.ok (), { c with iteration := c.iteration + 1 }, draw robot input output)

end Stand

end Lockstep.Controller
