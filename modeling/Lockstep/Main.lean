import Lockstep.Command.Simulator

/-! The programs on a terminal. Their channels live inside one process.

The first word says which program to run. A simulator can bring its robot
along: the words of the robot program follow a plus sign.
-/

set_option autoImplicit false

namespace Lockstep.Command

open Config

def readFile (path : String) : IO File := do
  try return .content (← IO.FS.readBinFile path).toList
  catch
    | .noFileOrDirectory .. => return .missing
    | _ => return .directory

def readFiles (known : List (String × File)) (paths : List String) : IO (List (String × File)) := do
  let mut all := known
  for path in paths do
    all := (path, ← readFile path) :: all
  return all

def lookUp (known : List (String × File)) : Files := fun path => (known.lookup path).getD .missing

def robotFiles (words : List String) : IO (List (String × File)) := do
  match RobotArguments.read words with
  | .accepted a =>
    let known ← readFiles [] a.shared.config.toList
    let paths := match a.settings (lookUp known) with
      | .ok s => (a.robotFile? s).toList ++ (a.userFile? s).toList
      | .error _ => []
    readFiles known paths
  | _ => return []

def simulatorFiles (words : List String) : IO (List (String × File)) := do
  match SimulatorArguments.read words with
  | .accepted a =>
    let known ← readFiles [] a.shared.config.toList
    let paths := match a.settings (lookUp known) with
      | .ok s => s.robotParameters.toList ++ s.userParameters.toList
      | .error _ => []
    readFiles known paths
  | _ => return []

def publish (r : Report) : IO UInt32 := do
  for line in r.lines do IO.println line
  return UInt32.ofNat r.status

/-- Turns after which a simulator that nobody stops is given up. -/
def turnLimit : Nat := 1000000

/-- Print both reports; a simulator that was given up fails. -/
def publishBoth (simulator : Option Report) (robot : Option Report) : IO UInt32 := do
  if let some r := robot then
    let _ ← publish r
  match simulator with
  | some r => publish r
  | none => return 1

end Lockstep.Command

open Lockstep Lockstep.Command in
def main (words : List String) : IO UInt32 := do
  match words with
  | "robot" :: rest => publish (robotAlone rest (lookUp (← robotFiles rest)) .empty)
  | "simulator" :: rest =>
    let own := rest.takeWhile (· != "+")
    let files ← simulatorFiles own
    match rest.dropWhile (· != "+") with
    | [] => publishBoth (simulator turnLimit own (lookUp files) (fun _ => true) () .empty).1 none
    | _ :: companion =>
      let (simulator, robot) :=
        together turnLimit own companion (lookUp (files ++ (← robotFiles companion))) .empty
      publishBoth simulator (some robot)
  | _ =>
    IO.println "usage: lockstep robot WORDS | lockstep simulator WORDS [+ WORDS]"
    return 2
