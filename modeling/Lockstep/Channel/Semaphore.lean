import Lockstep.Channel.Region

/-! Named counting semaphores, and the pair of them that passes the turn. -/

set_option autoImplicit false

namespace Lockstep.Channel

structure SemaphoreHandle where
  name : String
  id : Nat
  deriving DecidableEq, Repr

def SemaphoreHandle.description (h : SemaphoreHandle) : String :=
  "NamedSemaphore \x7b name: " ++ Text.quoted h.name ++ " \x7d"

section

variable {α σ : Type}

/-- Unbind a semaphore name; a name that is not bound is no error. -/
def unlinkSemaphore (name : String) : Act α σ Error Unit := do
  Act.ofExcept (requireName name)
  Act.setSpace ((← Act.space).unbindSemaphore name)

/-- Bind a name to a fresh semaphore that counts 0. A name that is taken is an
error, or with `overwrite` loses its old semaphore. -/
def createSemaphore (name : String) (overwrite : Bool) : Act α σ Error SemaphoreHandle := do
  Act.ofExcept (requireName name)
  if ((← Act.space).semaphoreNames name).isSome then
    if !overwrite then throw (.semaphoreExists name)
    Act.note .warn "Semaphore already exists, reclaiming it" [("name", .text name)]
    unlinkSemaphore name
  let (id, s) := (← Act.space).addSemaphore name
  Act.setSpace s
  Act.note .debug "Semaphore created" [("name", .text name)]
  return ⟨name, id⟩

def openSemaphore (name : String) : Act α σ Error SemaphoreHandle := do
  Act.ofExcept (requireName name)
  match (← Act.space).semaphoreNames name with
  | none => throw (.semaphoreNotFound name)
  | some id =>
    Act.note .debug "Semaphore opened" [("name", .text name)]
    return ⟨name, id⟩

def SemaphoreHandle.post (h : SemaphoreHandle) (s : Space α) : Except Error (Unit × Space α) :=
  if s.count h.id < Space.maxCount then .ok ((), s.post h.id)
  else .error (.semaphoreOverflow h.name)

def SemaphoreHandle.tryTake (h : SemaphoreHandle) (s : Space α) : Bool × Space α :=
  match s.take? h.id with
  | some s => (true, s)
  | none => (false, s)

/-- Lower the count by one, waiting for it a bounded time; say whether it came. -/
def SemaphoreHandle.await [Peer α σ] (h : SemaphoreHandle) : Act α σ Error Bool :=
  ExceptT.mk fun w =>
    let (taken, w) := w.await h.id
    (.ok taken, w)

def SemaphoreHandle.awaitForever [Peer α σ] (h : SemaphoreHandle) : Act α σ Error Unit := do
  if !(← h.await) then throw (.wouldBlock h.name)

end

structure TurnSemaphores where
  -- Posted by the robot when its turn is over.
  robot : SemaphoreHandle
  -- Posted by the simulator when its turn is over.
  simulator : SemaphoreHandle
  deriving DecidableEq, Repr

namespace TurnSemaphores

variable {α σ : Type}

def unlink (names : Names) : Act α σ Error Unit := do
  unlinkSemaphore names.robotSemaphore
  unlinkSemaphore names.simulatorSemaphore

def create (names : Names) : Act α σ Error TurnSemaphores := do
  let robot ← createSemaphore names.robotSemaphore true
  let simulator ← createSemaphore names.simulatorSemaphore true
  return ⟨robot, simulator⟩

/-- Bind both names to fresh semaphores unless one of them is taken; then
neither is left behind. -/
def createExclusive (names : Names) : Act α σ Error TurnSemaphores := do
  let robot ← createSemaphore names.robotSemaphore false
  try
    let simulator ← createSemaphore names.simulatorSemaphore false
    return ⟨robot, simulator⟩
  catch e =>
    unlinkSemaphore names.robotSemaphore
    throw e

def openBoth (names : Names) : Act α σ Error TurnSemaphores := do
  let robot ← openSemaphore names.robotSemaphore
  let simulator ← openSemaphore names.simulatorSemaphore
  return ⟨robot, simulator⟩

end TurnSemaphores

end Lockstep.Channel
