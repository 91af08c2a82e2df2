/-! Names of the objects that make up a channel. -/

set_option autoImplicit false

namespace Lockstep.Channel

def maxNameLength : Nat := 200

inductive NameFault where
  | noLeadingSlash
  | innerSlash
  | tooLong
  | containsNul
  deriving DecidableEq, Repr

def NameFault.reason (fault : NameFault) (name : String) : String :=
  match fault with
  | noLeadingSlash => s!"'{name}' must start with '/' followed by a name"
  | innerSlash => s!"'{name}' may not contain '/' after the first character"
  | tooLong => s!"'{name}' is {name.utf8ByteSize} bytes (max {maxNameLength})"
  | containsNul => s!"'{name}' contains a NUL byte"

/-- The first rule that a name breaks: a slash and then something without
slashes, at most `maxNameLength` bytes, no NUL. -/
def nameFault? (name : String) : Option NameFault :=
  match name.toList with
  | '/' :: c :: rest =>
    if '/' ∈ c :: rest then some .innerSlash
    else if maxNameLength < name.utf8ByteSize then some .tooLong
    else if '\x00' ∈ c :: rest then some .containsNul
    else none
  | _ => some .noLeadingSlash

structure Names where
  region : String
  -- Posted by the robot when its turn is over.
  robotSemaphore : String
  -- Posted by the simulator when its turn is over.
  simulatorSemaphore : String
  deriving DecidableEq, Repr

namespace Names

def standard : Names :=
  ⟨"/development-simulator", "/robot-semaphore", "/simulator-semaphore"⟩

instance : Inhabited Names := ⟨standard⟩

def withSuffix (suffix : String) : Names :=
  ⟨s!"{standard.region}-{suffix}", s!"{standard.robotSemaphore}-{suffix}",
    s!"{standard.simulatorSemaphore}-{suffix}"⟩

inductive Fault where
  | badName (field : String) (name : String) (fault : NameFault)
  | equalSemaphores
  deriving DecidableEq, Repr

def Fault.message : Fault → String
  | badName field name fault => s!"{field}: {fault.reason name}"
  | equalSemaphores => "robot_semaphore and simulator_semaphore must differ"

/-- The first thing wrong with the names, in the order of the fields. -/
def fault? (names : Names) : Option Fault :=
  let bad (field name : String) : Option Fault := (nameFault? name).map (.badName field name)
  bad "region" names.region
    <|> bad "robot_semaphore" names.robotSemaphore
    <|> bad "simulator_semaphore" names.simulatorSemaphore
    <|> if names.robotSemaphore = names.simulatorSemaphore then some .equalSemaphores else none

end Names

end Lockstep.Channel
