import Lockstep.Channel.Handle
import Lockstep.Message

/-! A simulator that follows a script, as the peer of a robot program. -/

set_option autoImplicit false

namespace Lockstep

open Channel

structure ScriptedSimulator where
  -- Its end of the channel, as long as it has one.
  endpoint? : Option Endpoint
  -- What it does to the message in each of the turns that are left.
  turns : List (Message → Message)
  used : Nat

namespace ScriptedSimulator

def hold? (e : Endpoint) (space : Space Message) : Option (Endpoint × Space Message) :=
  match e.phase with
  | .active => some (e, space)
  | .waiting =>
    match e.tryTake space with
    | .ok ((true, e), space) => some (e, space)
    | _ => none

def take (e : Endpoint) (change : Message → Message) (space : Space Message) :
    Except Channel.Error (Endpoint × Space Message) := do
  let ((), space) ← e.update change space
  e.finish space

def move (p : ScriptedSimulator) (space : Space Message) : ScriptedSimulator × Space Message :=
  match p.endpoint?, p.turns with
  | some e, change :: rest =>
    match hold? e space with
    | none => (p, space)
    | some (e, space) =>
      match take e change space with
      | .ok (e, space) => (⟨some e, rest, p.used + 1⟩, space)
      | .error _ => (⟨some e, p.turns, p.used⟩, space)
  | _, _ => (p, space)

instance : Peer Message ScriptedSimulator := ⟨move⟩

end ScriptedSimulator

end Lockstep
