import Lockstep.Message

/-! Crash reports.

A process that crashes cannot wait for its turn. It writes into the fault
buffer that was armed last, as long as nobody has disarmed it.
-/

set_option autoImplicit false

namespace Lockstep.Bridge

open Message

abbrev FaultBuffer := Vector UInt8 faultCapacity

structure Reporter where
  buffer : Nat
  deriving DecidableEq, Repr

/-- The fault buffers of a process, and the one that crashes are written to. -/
structure CrashSite where
  buffers : Nat → FaultBuffer
  target : Option Nat

def busError : Nat := 7

def segmentationFault : Nat := 11

def signalText? (signal : Nat) : Option String :=
  if signal = segmentationFault then some "robot program crashed: segmentation fault (SIGSEGV)"
  else if signal = busError then some "robot program crashed: bus error (SIGBUS)"
  else none

def panicText (text : String) : String := s!"robot program panicked: {text}"

namespace CrashSite

def fresh : CrashSite := ⟨fun _ => .replicate faultCapacity 0, none⟩

def modify (s : CrashSite) (buffer : Nat) (f : FaultBuffer → FaultBuffer) : CrashSite :=
  { s with buffers := fun b => if b = buffer then f (s.buffers b) else s.buffers b }

def arm (s : CrashSite) (buffer : Nat) : Reporter × CrashSite :=
  (⟨buffer⟩, { s with target := some buffer })

/-- Drop a reporter. Crashes that are directed elsewhere stay so. -/
def disarm (s : CrashSite) (r : Reporter) : CrashSite :=
  if s.target = some r.buffer then { s with target := none } else s

def panic (s : CrashSite) (text : String) : CrashSite :=
  match s.target with
  | none => s
  | some b =>
    s.modify b fun _ => Wire.padded faultCapacity (Text.keptBytes faultCapacity (panicText text))

/-- Report a signal: its text and one NUL go over what the buffer held before. -/
def signal (s : CrashSite) (number : Nat) : CrashSite :=
  match s.target, signalText? number with
  | some b, some text =>
    let report := Text.keptBytes faultCapacity text ++ [0]
    s.modify b fun old => Wire.padded faultCapacity (report ++ old.toList.drop report.length)
  | _, _ => s

def text (s : CrashSite) (buffer : Nat) : String :=
  Text.Utf8.lossy (Text.terminatedBytes (s.buffers buffer).toList)

end CrashSite

end Lockstep.Bridge
