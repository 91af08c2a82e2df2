import Lockstep.Channel.Space
import Lockstep.Journal

/-! A process at work: the shared objects, its own journal, and the peer that moves while it waits.

Processes take turns at running. The one that is looked at runs until it waits
for a semaphore that counts 0; then its peer moves once, and if the count is
still 0 after that, the wait is over without success.
-/

set_option autoImplicit false

namespace Lockstep.Channel

/-- A peer that makes one move on the shared objects when it gets the chance. -/
class Peer (α σ : Type) where
  move : σ → Space α → σ × Space α

instance {α : Type} : Peer α Unit := ⟨fun peer s => (peer, s)⟩

structure World (α σ : Type) where
  space : Space α
  peer : σ
  journal : Journal

/-- Something that a process does, which may fail; what was done before the
failure stays done. -/
abbrev Act (α σ ε β : Type) := ExceptT ε (StateM (World α σ)) β

namespace World

variable {α σ : Type}

def note (w : World α σ) (r : Record) : World α σ := { w with journal := w.journal.push r }

def setSpace (w : World α σ) (s : Space α) : World α σ := { w with space := s }

end World

namespace Act

variable {α σ ε β : Type}

def note (level : Level) (message : String) (fields : List (String × FieldValue)) :
    Act α σ ε Unit :=
  modify fun w => w.note ⟨level, message, fields⟩

def space : Act α σ ε (Space α) := return (← get).space

def setSpace (s : Space α) : Act α σ ε Unit := modify (·.setSpace s)

def ofExcept (r : Except ε β) : Act α σ ε β := ExceptT.mk (pure r)

/-- A step on the shared objects that changes nothing when it fails. -/
def onSpace (f : Space α → Except ε (β × Space α)) : Act α σ ε β := do
  let (b, s) ← ofExcept (f (← space))
  setSpace s
  return b

end Act

/-- Take a semaphore, letting the peer move once if it counts 0. -/
def World.await {α σ : Type} [Peer α σ] (w : World α σ) (id : Nat) : Bool × World α σ :=
  match w.space.take? id with
  | some s => (true, w.setSpace s)
  | none =>
    let (peer, moved) := Peer.move w.peer w.space
    match moved.take? id with
    | some s => (true, { w with peer := peer, space := s })
    | none => (false, { w with peer := peer, space := moved })

end Lockstep.Channel
