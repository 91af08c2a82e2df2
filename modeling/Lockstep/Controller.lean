import Lockstep.Controller.Stand

/-! The controllers that a robot program can run. -/

set_option autoImplicit false

namespace Lockstep

open Message Parameter

inductive Controller where
  -- Does nothing and has no parameters.
  | passive
  | stand (c : Controller.Stand)
  deriving DecidableEq

namespace Controller

def user? : Controller → Option Table
  | passive => none
  | stand c => some c.user

def setUser : Controller → Table → Controller
  | passive, _ => passive
  | stand c, t => stand { c with user := t }

def iterations? : Controller → Option Nat
  | passive => none
  | stand c => some c.iteration

def prepare (c : Controller) (robot : Robot) (input : ToRobot) : Except Error Unit × Controller :=
  match c with
  | passive => (.ok (), passive)
  | stand c =>
    let (result, c) := c.prepare robot input
    (result, stand c)

/-- One iteration: read one half of the message, write the other. -/
def run (c : Controller) (robot : Robot) (parameters : Table) (input : ToRobot)
    (output : ToSimulator) : Except Error Unit × Controller × ToSimulator :=
  match c with
  | passive => (.ok (), passive, output)
  | stand c =>
    let (result, c, output) := c.run robot parameters input output
    (result, stand c, output)

end Controller

end Lockstep
