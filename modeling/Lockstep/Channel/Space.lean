import Lockstep.Channel.Error
import Lockstep.Channel.Words

/-! The shared name space: regions and counting semaphores.

A name is bound to an object or to none, and an object outlives its name for as
long as someone holds it. Objects are numbered in the order of their creation
and a number is never given twice, so the number is the object's identity.

Regions and semaphores are named apart here. The system keeps the semaphore `/x`
in the place of a region `/sem.x`; what is said of a name space is meant where no
region bears the name of such a place.
-/

set_option autoImplicit false

namespace Lockstep.Channel

abbrev Bindings := String → Option Nat

namespace Bindings

def empty : Bindings := fun _ => none

def bind (names : Bindings) (name : String) (id : Nat) : Bindings :=
  fun other => if other = name then some id else names other

def unbind (names : Bindings) (name : String) : Bindings :=
  fun other => if other = name then none else names other

end Bindings

structure Space (α : Type) where
  regionNames : Bindings
  regions : Array (Region α)
  semaphoreNames : Bindings
  counts : Array Nat

namespace Space

variable {α : Type}

def empty : Space α := ⟨.empty, #[], .empty, #[]⟩

instance : Inhabited (Space α) := ⟨empty⟩

/-- Highest value that a semaphore counts to. -/
def maxCount : Nat := 2147483647

def addRegion (s : Space α) (name : String) (region : Region α) : Nat × Space α :=
  (s.regions.size,
    { s with
      regionNames := s.regionNames.bind name s.regions.size
      regions := s.regions.push region })

def addSemaphore (s : Space α) (name : String) : Nat × Space α :=
  (s.counts.size,
    { s with
      semaphoreNames := s.semaphoreNames.bind name s.counts.size
      counts := s.counts.push 0 })

def unbindRegion (s : Space α) (name : String) : Space α :=
  { s with regionNames := s.regionNames.unbind name }

def unbindSemaphore (s : Space α) (name : String) : Space α :=
  { s with semaphoreNames := s.semaphoreNames.unbind name }

def content? (s : Space α) (id : Nat) : Option α := s.regions[id]?.map (·.content)

def setContent (s : Space α) (id : Nat) (content : α) : Space α :=
  { s with regions := s.regions.modify id fun r => { r with content := content } }

def count (s : Space α) (id : Nat) : Nat := s.counts.getD id 0

def post (s : Space α) (id : Nat) : Space α :=
  { s with counts := s.counts.modify id (· + 1) }

def take? (s : Space α) (id : Nat) : Option (Space α) :=
  if 0 < s.count id then some { s with counts := s.counts.modify id (· - 1) } else none

end Space

end Lockstep.Channel
