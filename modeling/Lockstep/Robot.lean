/-! The robots that a simulator can declare and a robot program can be launched as. -/

set_option autoImplicit false

namespace Lockstep

def legCount : Nat := 4

/-- Joints of a leg: ab/ad, hip, knee. -/
def jointsPerLeg : Nat := 3

abbrev Leg := Fin legCount

abbrev Joint := Fin jointsPerLeg

abbrev PerJoint (α : Type) := Vector α jointsPerLeg

abbrev PerLeg (α : Type) := Vector α legCount

inductive Robot where
  | cheetah3
  | miniCheetah
  | cyberdog
  deriving DecidableEq, Repr

namespace Robot

def code : Robot → UInt32
  | cheetah3 => 0
  | miniCheetah => 1
  | cyberdog => 2

def ofCode? : UInt32 → Option Robot
  | 0 => some cheetah3
  | 1 => some miniCheetah
  | 2 => some cyberdog
  | _ => none

@[simp] theorem ofCode?_code (r : Robot) : ofCode? r.code = some r := by cases r <;> rfl

def label : Robot → String
  | cheetah3 => "Cheetah 3"
  | miniCheetah => "Mini Cheetah"
  | cyberdog => "Cyberdog"

def id : Robot → String
  | cheetah3 => "3"
  | miniCheetah => "m"
  | cyberdog => "c"

/-- Name used in configuration files, and as a long form on the command line. -/
def name : Robot → String
  | cheetah3 => "cheetah3"
  | miniCheetah => "mini_cheetah"
  | cyberdog => "cyberdog"

def all : List Robot := [cheetah3, miniCheetah, cyberdog]

/-- Whether the legs hang on the SPI blocks; the others have one board per leg. -/
def usesSpi : Robot → Bool
  | cheetah3 => false
  | miniCheetah => true
  | cyberdog => true

def parse? (text : String) : Option Robot :=
  all.find? fun r => r.id == text || r.name == text

def unknownMessage (text : String) : String :=
  s!"unknown robot type '{text}' (expected 3, m or c)"

end Robot

end Lockstep
