import Lockstep.Config.File
import Lockstep.Journal
import Lockstep.Robot

/-! Records of configuration documents: what both programs share, and the settings of each. -/

set_option autoImplicit false

namespace Lockstep.Config

open Toml (Value)

def required {α : Type} (fields : String → Option Value) (name : String) (read : Value → Option α) :
    Option α :=
  fields name >>= read

def withDefault {α : Type} (fields : String → Option Value) (name : String)
    (read : Value → Option α) (default : α) : Option α :=
  match fields name with
  | none => some default
  | some v => read v

def optional {α : Type} (fields : String → Option Value) (name : String)
    (read : Value → Option α) : Option (Option α) :=
  withDefault fields name (fun v => (read v).map some) none

def largest : Nat := 0x7fffffffffffffff

structure Shared where
  logLevel : Level
  serviceName : String
  deriving DecidableEq, Repr

namespace Shared

def named (serviceName : String) : Shared := ⟨.info, serviceName⟩

def read (v : Value) : Option Shared := do
  let fields ← v.fields? ["log_level", "service_name"]
  let logLevel ← withDefault fields "log_level" (fun v => v.choice? >>= Level.ofName?) .info
  let serviceName ← required fields "service_name" Value.text?
  return ⟨logLevel, serviceName⟩

def invalid? (s : Shared) : Option Invalid :=
  if s.serviceName.isEmpty then some .emptyServiceName else none

end Shared

/-- Names of a channel; those that are absent are the well-known ones. -/
def readNames (v : Value) : Option Channel.Names := do
  let standard := Channel.Names.standard
  let fields ← v.fields? ["region", "robot_semaphore", "simulator_semaphore"]
  let region ← withDefault fields "region" Value.text? standard.region
  let robot ← withDefault fields "robot_semaphore" Value.text? standard.robotSemaphore
  let simulator ← withDefault fields "simulator_semaphore" Value.text? standard.simulatorSemaphore
  return ⟨region, robot, simulator⟩

def validated {α : Type} (invalid? : α → Option Invalid) (a : α) : Except Error α :=
  match invalid? a with
  | some cause => .error (.invalid cause)
  | none => .ok a

structure RobotSettings where
  shared : Shared
  channel : Channel.Names
  robotParameters : Option String
  userParameters : Option String
  deriving DecidableEq, Repr

namespace RobotSettings

def standard : RobotSettings := ⟨.named "quad_robot", .standard, none, none⟩

def read (v : Value) : Option RobotSettings := do
  let fields ← v.fields? ["shared", "channel", "robot_parameters_file", "user_parameters_file"]
  let shared ← required fields "shared" Shared.read
  let channel ← withDefault fields "channel" readNames .standard
  let robot ← optional fields "robot_parameters_file" Value.text?
  let user ← optional fields "user_parameters_file" Value.text?
  return ⟨shared, channel, robot, user⟩

def invalid? (s : RobotSettings) : Option Invalid :=
  s.shared.invalid? <|> s.channel.fault?.map .names

def load (file : File) : Except Error RobotSettings :=
  file.load read >>= validated invalid?

end RobotSettings

/-- Default bound on one wait for the robot, in milliseconds. -/
def standardTurnTimeout : Nat := 1000

/-- Default number of further waits for the answer to a parameter request. -/
def standardRetries : Nat := 5

/-- Default period of controller turns, in microseconds. -/
def standardPeriod : Nat := 2000

structure SimulatorSettings where
  shared : Shared
  channel : Channel.Names
  robot : Robot
  -- Bound on one wait for the robot, in milliseconds.
  turnTimeout : Nat
  -- Further waits for the answer to a parameter request.
  retries : Nat
  -- Period of controller turns, in microseconds.
  period : Nat
  -- Controller turns to run; no bound if absent.
  iterations : Option Nat
  -- Robot parameters to send before the controller starts.
  robotParameters : Option String
  userParameters : Option String
  deriving DecidableEq, Repr

namespace SimulatorSettings

def standard (robot : Robot) : SimulatorSettings :=
  ⟨.named "quad_sim", .standard, robot, standardTurnTimeout, standardRetries, standardPeriod,
    none, none, none⟩

def read (v : Value) : Option SimulatorSettings := do
  let fields ← v.fields? ["shared", "channel", "robot_type", "turn_timeout_ms",
    "parameter_retries", "controller_period_us", "iterations", "robot_parameters_file",
    "user_parameters_file"]
  let shared ← required fields "shared" Shared.read
  let channel ← withDefault fields "channel" readNames .standard
  let robot ← required fields "robot_type" fun v => do
    let name ← v.choice?
    Robot.all.find? (·.name == name)
  let natural := Value.natural? largest
  let turnTimeout ← withDefault fields "turn_timeout_ms" natural standardTurnTimeout
  let retries ←
    withDefault fields "parameter_retries" (Value.natural? (UInt32.size - 1)) standardRetries
  let period ← withDefault fields "controller_period_us" natural standardPeriod
  let iterations ← optional fields "iterations" natural
  let robotParameters ← optional fields "robot_parameters_file" Value.text?
  let userParameters ← optional fields "user_parameters_file" Value.text?
  return ⟨shared, channel, robot, turnTimeout, retries, period, iterations, robotParameters,
    userParameters⟩

def invalid? (s : SimulatorSettings) : Option Invalid :=
  s.shared.invalid? <|> s.channel.fault?.map .names
    <|> (if s.turnTimeout = 0 then some (.notPositive "turn_timeout_ms") else none)
    <|> (if s.period = 0 then some (.notPositive "controller_period_us") else none)

def load (file : File) : Except Error SimulatorSettings :=
  file.load read >>= validated invalid?

end SimulatorSettings

end Lockstep.Config
