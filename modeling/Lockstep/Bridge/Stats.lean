import Lockstep.Duration
import Lockstep.Mode

/-! Counts and durations of the turns that a robot program gave back. -/

set_option autoImplicit false

namespace Lockstep.Bridge

/-- Longest duration that is told apart from longer ones, in nanoseconds. -/
def longestCounted : Nat := UInt64.size - 1

structure Stats where
  turns : Nat
  parameterTurns : Nat
  redundantTurns : Nat
  controllerTurns : Nat
  idleTurns : Nat
  -- Shortest turn in nanoseconds.
  shortest : Nat
  -- Longest turn in nanoseconds.
  longest : Nat
  -- Sum over all turns in nanoseconds, as far as it is counted.
  total : Nat
  deriving DecidableEq, Repr

namespace Stats

def fresh : Stats := ⟨0, 0, 0, 0, 0, longestCounted, 0, 0⟩

def count (s : Stats) : Mode → Stats
  | .applyParameters => { s with parameterTurns := s.parameterTurns + 1 }
  | .runController => { s with controllerTurns := s.controllerTurns + 1 }
  | .idle => { s with idleTurns := s.idleTurns + 1 }
  | .exit => s

def measure (s : Stats) (duration : Duration) : Stats :=
  let spent := min duration.nanoseconds longestCounted
  { s with
    turns := s.turns + 1
    shortest := min s.shortest spent
    longest := max s.longest spent
    total := min (s.total + spent) longestCounted }

def record (s : Stats) (mode : Mode) (duration : Duration) : Stats :=
  (s.measure duration).count mode

/-- Mean duration of a turn in nanoseconds, rounded down. -/
def average (s : Stats) : Nat := if s.turns = 0 then 0 else s.total / s.turns

end Stats

end Lockstep.Bridge
