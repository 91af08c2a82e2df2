import Lockstep.Channel.Name
import Lockstep.Text.Escape

/-! What can go wrong with the shared objects of a channel and with taking turns. -/

set_option autoImplicit false

namespace Lockstep.Channel

inductive Phase where
  | waiting
  | active
  deriving DecidableEq, Repr

def Phase.name : Phase → String
  | waiting => "waiting"
  | active => "active"

/-- What a peer may do in one phase only. -/
inductive Operation where
  | read
  | write
  | simulatorDone
  | robotDone
  | waitForRobot
  | tryWaitForRobot
  | waitForSimulator
  deriving DecidableEq, Repr

def Operation.label : Operation → String
  | read => "read region"
  | write => "write region"
  | simulatorDone => "signal simulator done"
  | robotDone => "signal robot done"
  | waitForRobot => "wait for robot"
  | tryWaitForRobot => "try wait for robot"
  | waitForSimulator => "wait for simulator"

inductive SystemFault where
  | invalidArgument
  | nameTooLong
  | isDirectory
  deriving DecidableEq, Repr

def SystemFault.message : SystemFault → String
  | invalidArgument => "EINVAL: Invalid argument"
  | nameTooLong => "ENAMETOOLONG: File name too long"
  | isDirectory => "EISDIR: Is a directory"

inductive Error where
  | regionExists (name : String)
  | regionNotFound (name : String)
  | sizeMismatch (name : String) (expected actual : Nat)
  | semaphoreNotFound (name : String)
  | semaphoreExists (name : String)
  -- A post on a semaphore that already counts as far as it can.
  | semaphoreOverflow (name : String)
  -- A blocking wait that nobody is there to end.
  | wouldBlock (name : String)
  | turnViolation (operation : Operation) (phase : Phase)
  | invalidName (name : String) (fault : NameFault)
  | system (fault : SystemFault)
  deriving DecidableEq, Repr

def Error.message : Error → String
  | regionExists name => s!"Region already exists: {name}"
  | regionNotFound name => s!"Region not found: {name}"
  | sizeMismatch name expected actual =>
    s!"Region {name} is {actual} bytes, expected {expected} (peers built from different layouts?)"
  | semaphoreNotFound name => s!"Semaphore not found: {name}"
  | semaphoreExists name => s!"Semaphore already exists: {name}"
  | semaphoreOverflow name =>
    s!"Semaphore {name}: sem_post failed: EOVERFLOW: Value too large for defined data type"
  | wouldBlock name =>
    s!"Semaphore {name}: sem_wait failed: EDEADLK: Resource deadlock would occur"
  | turnViolation operation phase => s!"Turn violation: {operation.label} while {phase.name}"
  | invalidName name fault => s!"Invalid name {Text.quoted name}: {fault.reason name}"
  | system fault => s!"System call error: {fault.message}"

end Lockstep.Channel
