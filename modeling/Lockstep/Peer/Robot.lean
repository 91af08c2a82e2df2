import Lockstep.Bridge

/-! A robot program as the peer of a simulator.

It gets the chance to move whenever the simulator waits in vain. It may be
late, and what it writes may be spoiled afterwards.
-/

set_option autoImplicit false

namespace Lockstep

open Channel

namespace RobotPeer

inductive Stage where
  -- It has not looked for a channel yet.
  | unattached
  -- There was no channel to attach to.
  | refused (error : Bridge.Error)
  | running (bridge : Bridge)
  -- It was told to exit.
  | exited (program : Bridge.Program)
  | failed (error : Bridge.Error) (program : Bridge.Program)
  deriving DecidableEq

end RobotPeer

structure RobotPeer where
  names : Names
  -- The program, unless nobody is there at all.
  program? : Option Bridge.Program
  stage : RobotPeer.Stage
  -- Chances to move that it lets pass.
  countdown : Nat
  -- Chances to move that it had.
  waits : Nat
  -- What becomes of the message after the next turn.
  spoil : Message → Message
  journal : Journal

namespace RobotPeer

/-- A robot that lets some chances pass before it attaches. -/
def start (names : Names) (program? : Option Bridge.Program) (countdown : Nat) : RobotPeer :=
  ⟨names, program?, .unattached, countdown, 0, id, #[]⟩

/-- Spoil the message after the next turn, after what is planned already. -/
def planSpoil (p : RobotPeer) (f : Message → Message) : RobotPeer :=
  { p with spoil := fun m => f (p.spoil m) }

def doing {β : Type} (p : RobotPeer) (space : Space Message)
    (f : World Message Unit → β × World Message Unit) : β × RobotPeer × Space Message :=
  let (b, w) := f ⟨space, (), p.journal⟩
  (b, { p with journal := w.journal }, w.space)

def attach (p : RobotPeer) (program : Bridge.Program) (space : Space Message) :
    RobotPeer × Space Message :=
  let attempt := (Bridge.connect p.names program : Act Message Unit Bridge.Error Bridge)
  let (result, p, space) := p.doing space attempt.run
  match result with
  | .ok b => ({ p with stage := .running b, journal := p.journal.push Bridge.startRecord }, space)
  | .error e => ({ p with stage := .refused e }, space)

def serve (p : RobotPeer) (b : Bridge) (space : Space Message) : RobotPeer × Space Message :=
  if space.count b.endpoint.other.id = 0 then (p, space)
  else
    let ((result, b), p, space) := p.doing space b.step
    let (p, space) : RobotPeer × Space Message :=
      match result with
      | .error e => ({ p with stage := .failed e b.program }, space)
      | .ok .exit =>
        let ((), p, space) := p.doing space fun w =>
          ((), b.shutdown (w.note (Bridge.finishRecord b.program.stats)))
        ({ p with stage := .exited b.program }, space)
      | .ok _ => ({ p with stage := .running b }, space)
    match space.content? b.endpoint.region.id with
    | some m => ({ p with spoil := id }, space.setContent b.endpoint.region.id (p.spoil m))
    | none => (p, space)

/-- Attach if that was not tried yet, and serve a turn if there is one. -/
def act (p : RobotPeer) (space : Space Message) : RobotPeer × Space Message :=
  let (p, space) := match p.stage, p.program? with
    | .unattached, some program => p.attach program space
    | _, _ => (p, space)
  match p.stage with
  | .running b => p.serve b space
  | _ => (p, space)

def move (p : RobotPeer) (space : Space Message) : RobotPeer × Space Message :=
  let p := { p with waits := p.waits + 1 }
  if p.program?.isNone then (p, space)
  else if 0 < p.countdown then ({ p with countdown := p.countdown - 1 }, space)
  else p.act space

instance : Peer Message RobotPeer := ⟨move⟩

end RobotPeer

end Lockstep
