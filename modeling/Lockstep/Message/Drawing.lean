import Lockstep.Robot
import Lockstep.Wire.Field

/-! Debug drawings of the robot: bounded lists of spheres, arrows and path points,
and the body pose.
-/

set_option autoImplicit false

namespace Lockstep.Message

open Wire

def maxSpheres : Nat := 32

def maxArrows : Nat := 32

def maxPathPoints : Nat := 256

structure Sphere where
  position : Vector Single 3
  radius : Single
  color : Vector Single 4
  deriving DecidableEq, Inhabited

instance : Layout Sphere := .ofFields 1
  [.of "position" Sphere.position fun v s => { s with position := v },
   .of "radius" Sphere.radius fun v s => { s with radius := v },
   .of "color" Sphere.color fun v s => { s with color := v }]

structure Arrow where
  base : Vector Single 3
  direction : Vector Single 3
  headWidth : Single
  headLength : Single
  shaftWidth : Single
  color : Vector Single 4
  deriving DecidableEq, Inhabited

instance : Layout Arrow := .ofFields 1
  [.of "base_position" Arrow.base fun v s => { s with base := v },
   .of "direction" Arrow.direction fun v s => { s with direction := v },
   .of "head_width" Arrow.headWidth fun v s => { s with headWidth := v },
   .of "head_length" Arrow.headLength fun v s => { s with headLength := v },
   .of "shaft_width" Arrow.shaftWidth fun v s => { s with shaftWidth := v },
   .of "color" Arrow.color fun v s => { s with color := v }]

/-- Slots in front of which a count says how many are in use. -/
structure Slots (α : Type) (n : Nat) where
  count : UInt32
  items : Vector α n
  deriving DecidableEq

namespace Slots

variable {α : Type} {n : Nat}

instance [Inhabited α] : Inhabited (Slots α n) := ⟨⟨0, .replicate n default⟩⟩

/-- The items in use; a count beyond the capacity means all slots. -/
def toList (s : Slots α n) : List α := s.items.toList.take s.count.toNat

def push? (s : Slots α n) (a : α) : Option (Slots α n) :=
  if h : s.count.toNat < n then some ⟨s.count + 1, s.items.set s.count.toNat a⟩ else none

/-- Forget all items; what the slots hold stays behind. -/
def clear (s : Slots α n) : Slots α n := { s with count := 0 }

end Slots

structure Drawing where
  spheres : Slots Sphere maxSpheres
  arrows : Slots Arrow maxArrows
  path : Slots (Vector Single 3) maxPathPoints
  reserved : UInt32
  pathColor : Vector Single 4
  deriving DecidableEq, Inhabited

instance : Layout Drawing := .ofFields 1
  [.of "num_spheres" (·.spheres.count) fun v (s : Drawing) =>
     { s with spheres := { s.spheres with count := v } },
   .of "num_arrows" (·.arrows.count) fun v (s : Drawing) =>
     { s with arrows := { s.arrows with count := v } },
   .of "num_path_points" (·.path.count) fun v (s : Drawing) =>
     { s with path := { s.path with count := v } },
   .of "reserved" (·.reserved) fun v (s : Drawing) => { s with reserved := v },
   .of "spheres" (·.spheres.items) fun v (s : Drawing) =>
     { s with spheres := { s.spheres with items := v } },
   .of "arrows" (·.arrows.items) fun v (s : Drawing) =>
     { s with arrows := { s.arrows with items := v } },
   .of "path" (·.path.items) fun v (s : Drawing) =>
     { s with path := { s.path with items := v } },
   .of "path_color" (·.pathColor) fun v (s : Drawing) => { s with pathColor := v }]

namespace Drawing

def pushSphere (d : Drawing) (s : Sphere) : Bool × Drawing :=
  match d.spheres.push? s with
  | some spheres => (true, { d with spheres := spheres })
  | none => (false, d)

def pushArrow (d : Drawing) (a : Arrow) : Bool × Drawing :=
  match d.arrows.push? a with
  | some arrows => (true, { d with arrows := arrows })
  | none => (false, d)

def pushPathPoint (d : Drawing) (p : Vector Single 3) : Bool × Drawing :=
  match d.path.push? p with
  | some path => (true, { d with path := path })
  | none => (false, d)

def clear (d : Drawing) : Drawing :=
  { d with spheres := d.spheres.clear, arrows := d.arrows.clear, path := d.path.clear }

end Drawing

/-- Pose of the body and angles of all joints, leg after leg. -/
structure BodyPose where
  position : Vector Double 3
  orientation : Vector Double 4
  q : Vector Double (jointsPerLeg * legCount)
  color : Vector Single 4
  deriving DecidableEq, Inhabited

instance : Layout BodyPose := .ofFields 1
  [.of "position" BodyPose.position fun v s => { s with position := v },
   .of "quat" BodyPose.orientation fun v s => { s with orientation := v },
   .of "q" BodyPose.q fun v s => { s with q := v },
   .of "color" BodyPose.color fun v s => { s with color := v }]

end Lockstep.Message
