import Lockstep.Command.Robot
import Lockstep.Simulator.Headless

/-! The headless simulator as a command, alone or with a robot program. -/

set_option autoImplicit false

namespace Lockstep.Command

open Channel Simulator

structure SimulatorArguments where
  robot : Option Robot
  iterations : Option Nat
  shared : SharedArguments
  deriving DecidableEq, Repr

namespace SimulatorArguments

def usage : Usage SimulatorArguments where
  switches :=
    [⟨some 'r', "robot", .valued fun text a =>
        (once a.robot (Robot.parse? text)).map fun v => { a with robot := v }⟩,
     ⟨some 'n', "iterations", .valued fun text a =>
        (once a.iterations (count? text)).map fun v => { a with iterations := v }⟩] ++
    sharedSwitches (·.shared) (fun s a => { a with shared := s }) ++ informing SimulatorArguments
  operands := []

def read (words : List String) : Reading SimulatorArguments :=
  usage.read words ⟨none, none, .none⟩

/-- The settings in force: those of the file, and over them what the command line says. -/
def settings (a : SimulatorArguments) (files : Config.Files) :
    Except Config.Error Config.SimulatorSettings := do
  let base ← match a.shared.config with
    | some path => Config.SimulatorSettings.load (files path)
    | none => pure (.standard .miniCheetah)
  return { base with
    robot := a.robot.getD base.robot
    robotParameters := a.shared.robotParameters <|> base.robotParameters
    userParameters := a.shared.userParameters <|> base.userParameters
    iterations := a.iterations <|> base.iterations }

end SimulatorArguments

def simulatorDone (s : Summary) : List Record :=
  [info "Simulation finished"
      [("attached", .flag s.attached), ("parameters", .number s.parameters),
        ("cycles", .number s.cycles)],
    info "Quadruped headless simulator shutdown complete" []]

/-- Run the simulator in a world. Gives its report, unless the fuel is used
before it is done, and the world. -/
def runSimulator {σ : Type} [Peer Message σ] (fuel : Nat) (a : SimulatorArguments)
    (files : Config.Files) (running : σ → Bool) (peer : σ) (space : Space Message) :
    Option Report × World Message σ :=
  let settings := a.settings files
  let level := a.shared.threshold (settings.toOption.map (·.shared.logLevel))
  let w : World Message σ :=
    ⟨space, peer, #[info s!"Quadruped headless simulator v{version} starting..." []]⟩
  let report (status : Nat) (last : List Record) (w : World Message σ) :
      Option Report × World Message σ :=
    (some ⟨status, a.shared.style, (w.journal ++ last.toArray).kept level⟩, w)
  match settings with
  | .error e => report 1 [fatal e.message] w
  | .ok s =>
    match Headless.create s with
    | .error e => report 1 [fatal e.message] w
    | .ok h =>
      match h.run fuel files running (w.note (Headless.createRecord s)) with
      | (none, _, w) => (none, w)
      | (some (.error e), _, w) => report 1 [fatal e.message] w
      | (some (.ok summary), _, w) => report 0 (simulatorDone summary) w

def simulator {σ : Type} [Peer Message σ] (fuel : Nat) (words : List String)
    (files : Config.Files) (running : σ → Bool) (peer : σ) (space : Space Message) :
    Option Report × World Message σ :=
  match SimulatorArguments.read words with
  | .informed => (some (.ofStatus informedStatus), ⟨space, peer, #[]⟩)
  | .refused => (some (.ofStatus refusedStatus), ⟨space, peer, #[]⟩)
  | .accepted a => runSimulator fuel a files running peer space

/-- The simulator and a robot program that comes as soon as there is a channel.
Gives the reports of both. -/
def together (fuel : Nat) (simulatorWords robotWords : List String) (files : Config.Files)
    (space : Space Message) : Option Report × Report :=
  match RobotArguments.read robotWords with
  | .informed => ((simulator fuel simulatorWords files (fun _ => true) () space).1,
      .ofStatus informedStatus)
  | .refused => ((simulator fuel simulatorWords files (fun _ => true) () space).1,
      .ofStatus refusedStatus)
  | .accepted a =>
    let p := RobotProcess.start a files
    let (report, w) := simulator fuel simulatorWords files (fun _ => true) p.peer space
    (report, { p with peer := w.peer }.report)

structure Interruption where
  asked : Bool
  deriving DecidableEq, Repr

instance : Peer Message Interruption := ⟨fun _ space => (⟨true⟩, space)⟩

def interrupted (fuel : Nat) (words : List String) (files : Config.Files) (space : Space Message) :
    Option Report :=
  (simulator fuel words files (fun p : Interruption => !p.asked) ⟨false⟩ space).1

end Lockstep.Command
