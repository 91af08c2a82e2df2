import Lockstep.Bridge.Program
import Lockstep.Channel.Handle

/-! A robot program attached to a simulator's channel.

Each step is one turn. A turn that fails is not given back: the simulator finds
the reason in the fault text, and no later step does anything.
-/

set_option autoImplicit false

namespace Lockstep

open Channel

structure Bridge where
  endpoint : Endpoint
  program : Bridge.Program
  deriving DecidableEq

namespace Bridge

variable {σ : Type}

def connect (names : Names) (program : Program) : Act Message σ Error Bridge := do
  let endpoint ← ExceptT.adapt Error.channel (Endpoint.attach names (Wire.Layout.size Message))
  Act.note .debug "Crash handlers installed" []
  Act.note .debug "Crash reporter armed" []
  Act.note .info "Simulation bridge connected"
    [("robot", .text program.robot.label), ("region", .text names.region),
      ("robot_parameters", .number program.parameters.size)]
  return ⟨endpoint, program⟩

def failureRecords (text : String) : List Record :=
  let written := (Text.keptBytes Message.faultCapacity text).length
  ⟨.error, "Robot turn failed", [("error", .text text)]⟩ ::
    if written < text.utf8ByteSize then
      [⟨.debug, "Published error truncated",
        [("len", .number text.utf8ByteSize), ("written", .number written)]⟩]
    else []

/-- Serve the turn that the endpoint holds, and give it back if all goes well.
Time stands still meanwhile. -/
def serve (b : Bridge) (m : Message) (w : World Message σ) :
    (Except Error Mode × Bridge) × World Message σ :=
  let (result, turn) := b.program.serve m
  let b := { b with program := turn.program }
  let w := { w with journal := w.journal ++ turn.records.toArray }
  let put (output : Message.ToSimulator) (w : World Message σ) : World Message σ :=
    w.setSpace (w.space.setContent b.endpoint.region.id ⟨output, m.toRobot⟩)
  match result with
  | .error e =>
    let w := put (turn.output.publishFault e.message) w
    ((.error e, b), { w with journal := w.journal ++ (failureRecords e.message).toArray })
  | .ok mode =>
    let w := put turn.output w
    match b.endpoint.finish w.space with
    | .error e => ((.error (.channel e), b), w)
    | .ok (endpoint, space) =>
      let stats := turn.program.stats.record mode .zero
      ((.ok mode, ⟨endpoint, { turn.program with stats := stats }⟩), w.setSpace space)

def step [Peer Message σ] (b : Bridge) (w : World Message σ) :
    (Except Error Mode × Bridge) × World Message σ :=
  match b.endpoint.awaitForever.run w with
  | (.error e, w) => ((.error (.channel e), b), w)
  | (.ok endpoint, w) =>
    let b := { b with endpoint := endpoint }
    match endpoint.snapshot w.space with
    | .error e => ((.error (.channel e), b), w)
    | .ok m => b.serve m w

def shutdown (b : Bridge) (w : World Message σ) : World Message σ := (b.endpoint.close.run w).2

/-- Serve turns until the simulator asks to exit or something goes wrong; give up
when the fuel is used. -/
def serveTurns [Peer Message σ] : Nat → Bridge → World Message σ →
    Option (Except Error Unit × Bridge) × World Message σ
  | 0, _, w => (none, w)
  | fuel + 1, b, w =>
    match b.step w with
    | ((.error e, b), w) => (some (.error e, b), w)
    | ((.ok .exit, b), w) => (some (.ok (), b), w)
    | ((.ok _, b), w) => serveTurns fuel b w

def startRecord : Record := ⟨.info, "Waiting for the simulator's first turn", []⟩

def finishRecord (s : Stats) : Record :=
  ⟨.info, "Simulation bridge finished",
    [("turns", .number s.turns), ("controller_turns", .number s.controllerTurns),
      ("parameter_turns", .number s.parameterTurns)]⟩

/-- Serve turns until the simulator asks to exit, then let go of the channel. -/
def run [Peer Message σ] (fuel : Nat) (b : Bridge) (w : World Message σ) :
    Option (Except Error Stats) × World Message σ :=
  match serveTurns fuel b (w.note startRecord) with
  | (none, w) => (none, w)
  | (some (.error e, _), w) => (some (.error e), w)
  | (some (.ok (), b), w) =>
    let stats := b.program.stats
    (some (.ok stats), b.shutdown (w.note (finishRecord stats)))

end Bridge

end Lockstep
