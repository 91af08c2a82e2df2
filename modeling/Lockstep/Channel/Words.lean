/-! Regions, with what they hold.

The size of a region follows from the value that is to be held. The plainest contents are
words of 64 bits, zero where nothing was written.
-/

set_option autoImplicit false

namespace Lockstep.Channel

def regionAlignment : Nat := 65536

/-- Size of the region for a value of `size` bytes. A size that is already a
multiple of the granularity still gets a whole further block. -/
def regionSizeFor (size : Nat) : Nat := (size / regionAlignment + 1) * regionAlignment

structure Region (α : Type) where
  size : Nat
  content : α

structure Words where
  word : Nat → UInt64

namespace Words

instance : Inhabited Words := ⟨⟨fun _ => 0⟩⟩

def set (ws : Words) (index : Nat) (value : UInt64) : Words :=
  ⟨fun i => if i = index then value else ws.word i⟩

def byteSize (count : Nat) : Nat := 8 * count

end Words

end Lockstep.Channel
