import Lockstep.Bridge.Responder
import Lockstep.Command.Report
import Lockstep.Config.Record
import Lockstep.Peer.Robot

/-! The robot program as a command. -/

set_option autoImplicit false

namespace Lockstep.Command

open Channel Parameter

inductive Target where
  | simulator
  | hardware
  deriving DecidableEq, Repr

namespace Target

def id : Target → String
  | simulator => "s"
  | hardware => "r"

def label : Target → String
  | simulator => "development simulation"
  | hardware => "hardware"

def parse? (text : String) : Option Target := [simulator, hardware].find? (·.id == text)

end Target

structure RobotArguments where
  robot : Robot
  target : Target
  shared : SharedArguments
  deriving DecidableEq, Repr

namespace RobotArguments

structure Draft where
  robot : Option Robot
  target : Option Target
  shared : SharedArguments

def usage : Usage Draft where
  switches := sharedSwitches (·.shared) (fun a d => { d with shared := a }) ++ informing Draft
  operands :=
    [fun text d => (Robot.parse? text).map fun r => { d with robot := some r },
     fun text d => (Target.parse? text).map fun t => { d with target := some t }]

def read (words : List String) : Reading RobotArguments :=
  match usage.read words ⟨none, none, .none⟩ with
  | .informed => .informed
  | .refused => .refused
  | .accepted ⟨some robot, some target, shared⟩ => .accepted ⟨robot, target, shared⟩
  | .accepted _ => .refused

def settings (a : RobotArguments) (files : Config.Files) :
    Except Config.Error Config.RobotSettings :=
  match a.shared.config with
  | some path => Config.RobotSettings.load (files path)
  | none => .ok .standard

/-- The file of robot parameters to load: the command line comes before the settings. -/
def robotFile? (a : RobotArguments) (s : Config.RobotSettings) : Option String :=
  a.shared.robotParameters <|> s.robotParameters

def userFile? (a : RobotArguments) (s : Config.RobotSettings) : Option String :=
  a.shared.userParameters <|> s.userParameters

end RobotArguments

abbrev Preparation := Except String (Names × Bridge.Program)

def loadInto (t : Table) (path : Option String) (files : Config.Files) :
    Except String Table × List Record :=
  match path with
  | none => (.ok t, [])
  | some path =>
    let (result, t, records) := Bridge.loadFile t path (files path)
    (match result with
      | .ok () => .ok t
      | .error e => .error e.message, records)

def assemble (a : RobotArguments) (s : Config.RobotSettings) (files : Config.Files) :
    Preparation × List Record :=
  let notice := if (a.robotFile? s).isNone then
      [info "Robot parameters will be sent by the simulator" []]
    else []
  match loadInto .robot (a.robotFile? s) files with
  | (.error text, records) => (.error text, notice ++ records)
  | (.ok parameters, records) =>
    let controller := Controller.Stand.fresh
    match loadInto controller.user (a.userFile? s) files with
    | (.error text, more) => (.error text, notice ++ records ++ more)
    | (.ok user, more) =>
      (.ok (s.channel, .start a.robot (.stand { controller with user := user }) parameters),
        notice ++ records ++ more)

def prepareRobot (a : RobotArguments) (files : Config.Files) : Preparation × List Record :=
  let starting := info s!"Quadruped robot program v{version} starting..." []
  match a.settings files with
  | .error e => (.error e.message, [starting])
  | .ok s =>
    let configured := info "Robot program configured"
      [("robot", .text a.robot.label), ("driver", .text a.target.label),
        ("service", .text s.shared.serviceName)]
    match a.target with
    | .hardware =>
      (.error "the hardware bridge is not available in this build; use 's'", [starting, configured])
    | .simulator =>
      let (preparation, records) := assemble a s files
      (preparation, [starting, configured] ++ records)

/-- How a robot program ends, and the records about it. One that still runs
waits for a turn that nobody gives it. -/
def concludeRobot (stage : RobotPeer.Stage) : Nat × List Record :=
  match stage with
  | .exited program =>
    (0, [info "Simulator requested exit" [("turns", .number program.stats.turns)],
      info "Quadruped robot program shutdown complete" []])
  | .refused e | .failed e _ => (1, [fatal e.message])
  | .running b => (1, [fatal (Channel.Error.wouldBlock b.endpoint.other.name).message])
  | .unattached => (1, [])

/-- A robot process: the peer that it is in the world, and what it says in the end. -/
structure RobotProcess where
  arguments : RobotArguments
  level : Level
  peer : RobotPeer
  -- What went wrong before the channel was looked for.
  failure : Option String

namespace RobotProcess

def start (a : RobotArguments) (files : Config.Files) : RobotProcess :=
  let (preparation, records) := prepareRobot a files
  let level := a.shared.threshold ((a.settings files).toOption.map (·.shared.logLevel))
  let journal : Journal := records.toArray
  match preparation with
  | .error text =>
    ⟨a, level, { RobotPeer.start .standard none 0 with journal := journal }, some text⟩
  | .ok (names, program) =>
    ⟨a, level, { RobotPeer.start names (some program) 0 with journal := journal }, none⟩

def report (p : RobotProcess) : Report :=
  let (status, last) := match p.failure with
    | some text => (1, [fatal text])
    | none => concludeRobot p.peer.stage
  let journal := p.peer.journal ++ last.toArray
  ⟨status, p.arguments.shared.style, journal.kept p.level⟩

end RobotProcess

def robotAlone (words : List String) (files : Config.Files) (space : Space Message) : Report :=
  match RobotArguments.read words with
  | .informed => .ofStatus informedStatus
  | .refused => .ofStatus refusedStatus
  | .accepted a =>
    let p := RobotProcess.start a files
    { p with peer := (p.peer.act space).1 }.report

end Lockstep.Command
