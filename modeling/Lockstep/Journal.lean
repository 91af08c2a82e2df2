/-! Records that a program writes about its own doing. -/

set_option autoImplicit false

namespace Lockstep

inductive Level where
  | trace
  | debug
  | info
  | warn
  | error
  deriving DecidableEq, Repr

namespace Level

def name : Level → String
  | trace => "trace"
  | debug => "debug"
  | info => "info"
  | warn => "warn"
  | error => "error"

def label : Level → String
  | trace => "TRACE"
  | debug => "DEBUG"
  | info => "INFO"
  | warn => "WARN"
  | error => "ERROR"

def all : List Level := [trace, debug, info, warn, error]

def ofName? (text : String) : Option Level := all.find? (·.name == text)

def rank : Level → Nat
  | trace => 0
  | debug => 1
  | info => 2
  | warn => 3
  | error => 4

def passes (level threshold : Level) : Bool := threshold.rank ≤ level.rank

end Level

inductive FieldValue where
  | text (s : String)
  | number (n : Nat)
  | flag (b : Bool)
  deriving DecidableEq, Repr

structure Record where
  level : Level
  message : String
  fields : List (String × FieldValue)
  deriving DecidableEq, Repr

abbrev Journal := Array Record

def Journal.kept (journal : Journal) (threshold : Level) : List Record :=
  journal.toList.filter (·.level.passes threshold)

end Lockstep
