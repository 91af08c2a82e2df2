import Lockstep.Channel.Semaphore

/-! The two ends of a channel and the turn that passes between them.

One peer at a time may touch the region. A peer gives the turn away by posting
its own semaphore and gets it by taking the other one. The simulator creates
the channel and holds the first turn; robots attach to it and wait. An end is one of
the things that a process can hold open.
-/

set_option autoImplicit false

namespace Lockstep.Channel

inductive Role where
  | simulator
  | robot
  deriving DecidableEq, Repr

namespace Role

def doneOperation : Role → Operation
  | simulator => .simulatorDone
  | robot => .robotDone

def waitOperation : Role → Operation
  | simulator => .waitForRobot
  | robot => .waitForSimulator

end Role

structure Endpoint where
  role : Role
  names : Names
  region : RegionHandle
  turns : TurnSemaphores
  phase : Phase
  completed : Nat
  deriving DecidableEq, Repr

namespace Endpoint

def own (e : Endpoint) : SemaphoreHandle :=
  match e.role with
  | .simulator => e.turns.simulator
  | .robot => e.turns.robot

def other (e : Endpoint) : SemaphoreHandle :=
  match e.role with
  | .simulator => e.turns.robot
  | .robot => e.turns.simulator

def require (e : Endpoint) (phase : Phase) (operation : Operation) : Except Error Unit :=
  if e.phase = phase then .ok () else .error (.turnViolation operation e.phase)

section

variable {α : Type}

def snapshot (e : Endpoint) (s : Space α) : Except Error α :=
  match s.content? e.region.id with
  | some content => .ok content
  | none => .error (.regionNotFound e.names.region)

def read (e : Endpoint) (s : Space α) : Except Error α := do
  e.require .active .read
  e.snapshot s

def update (e : Endpoint) (f : α → α) (s : Space α) : Except Error (Unit × Space α) := do
  e.require .active .write
  let content ← e.snapshot s
  return ((), s.setContent e.region.id (f content))

def finish (e : Endpoint) (s : Space α) : Except Error (Endpoint × Space α) := do
  e.require .active e.role.doneOperation
  let ((), s) ← e.own.post s
  return ({ e with phase := .waiting, completed := e.completed + 1 }, s)

/-- Take the turn if the peer has given it away already; say whether it has. -/
def tryTake (e : Endpoint) (s : Space α) : Except Error ((Bool × Endpoint) × Space α) := do
  e.require .waiting .tryWaitForRobot
  match e.other.tryTake s with
  | (true, s) => return ((true, { e with phase := .active }), s)
  | (false, s) => return ((false, e), s)

end

section

variable {α σ : Type}

def await [Peer α σ] (e : Endpoint) : Act α σ Error (Bool × Endpoint) := do
  Act.ofExcept (e.require .waiting e.role.waitOperation)
  if ← e.other.await then return (true, { e with phase := .active })
  return (false, e)

def awaitForever [Peer α σ] (e : Endpoint) : Act α σ Error Endpoint := do
  Act.ofExcept (e.require .waiting e.role.waitOperation)
  e.other.awaitForever
  return { e with phase := .active }

/-- Create a channel for values of `valueSize` bytes and hold its first turn.
If a semaphore cannot be created the region is removed again. -/
def create [Inhabited α] (names : Names) (valueSize : Nat) (exclusive : Bool) :
    Act α σ Error Endpoint := do
  let region ← createRegion names.region valueSize !exclusive
  try
    let turns ←
      if exclusive then TurnSemaphores.createExclusive names else TurnSemaphores.create names
    Act.note .info "Simulator channel created"
      [("region", .text names.region), ("robot_semaphore", .text names.robotSemaphore),
        ("simulator_semaphore", .text names.simulatorSemaphore)]
    return ⟨.simulator, names, region, turns, .active, 0⟩
  catch e =>
    let _ ← region.destroy
    throw e

def attach (names : Names) (valueSize : Nat) : Act α σ Error Endpoint := do
  let region ← attachRegion names.region valueSize
  let turns ← TurnSemaphores.openBoth names
  Act.note .info "Robot attached to simulator channel" [("region", .text names.region)]
  return ⟨.robot, names, region, turns, .waiting, 0⟩

/-- Let go of the channel. Its creator unbinds the three names, unless a newer
creator has taken over the region's name: then all are left to that one. -/
def close (e : Endpoint) : Act α σ Error Unit := do
  match e.role with
  | .robot =>
    Act.note .debug "Robot detached from simulator channel" [("region", .text e.names.region)]
  | .simulator =>
    let reclaimed := e.region.reclaimed (← Act.space)
    let _ ← e.region.destroy
    if reclaimed then
      Act.note .warn "Channel names were reclaimed by a newer simulator, leaving them"
        [("region", .text e.names.region)]
    else
      TurnSemaphores.unlink e.names
      Act.note .info "Simulator channel destroyed" [("region", .text e.names.region)]

end

end Endpoint

inductive Handle where
  | region (r : RegionHandle)
  | semaphore (h : SemaphoreHandle)
  | turns (t : TurnSemaphores)
  | endpoint (e : Endpoint)
  -- A region that is open by its number alone.
  | object (id : Nat)
  deriving DecidableEq, Repr

/-- Let go of something. Creators of regions and of channels take the names with them. -/
def Handle.release {α σ : Type} : Handle → Act α σ Error Unit
  | region r => discard r.destroy
  | endpoint e => match e.role with
    | .simulator => e.close
    | .robot => return
  | _ => return

end Lockstep.Channel
