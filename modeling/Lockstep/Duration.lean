import Lockstep.Number.Scalar

/-! Spans of time, in whole nanoseconds. -/

set_option autoImplicit false

namespace Lockstep

structure Duration where
  nanoseconds : Nat
  deriving DecidableEq, Repr

namespace Duration

def secondLength : Nat := 1000000000

def zero : Duration := ⟨0⟩

def ofSeconds (seconds nanoseconds : Nat) : Duration := ⟨seconds * secondLength + nanoseconds⟩

def ofMilliseconds (n : Nat) : Duration := ⟨n * 1000000⟩

def ofMicroseconds (n : Nat) : Duration := ⟨n * 1000⟩

def seconds (d : Duration) : Nat := d.nanoseconds / secondLength

def subsecond (d : Duration) : Nat := d.nanoseconds % secondLength

/-- The span in seconds; whole seconds and the rest are rounded apart. -/
def inSeconds (d : Duration) : Double :=
  .ofInt d.seconds + .ofInt d.subsecond / .ofInt secondLength

end Duration

end Lockstep
