import Lockstep.Command.Arguments
import Lockstep.Journal

/-! What a program leaves behind: an exit status and the records that were let through. -/

set_option autoImplicit false

namespace Lockstep.Command

inductive Style where
  | compact
  | json
  deriving DecidableEq, Repr

structure Report where
  status : Nat
  style : Style
  records : List Record
  deriving DecidableEq, Repr

def version : String := "0.1.0"

def Report.ofStatus (status : Nat) : Report := ⟨status, .compact, []⟩

/-- A command line that was not accepted fails unless it asks for information. -/
def informedStatus : Nat := 0

def refusedStatus : Nat := 2

def SharedArguments.style (a : SharedArguments) : Style := if a.json then .json else .compact

def SharedArguments.threshold (a : SharedArguments) (configured : Option Level) : Level :=
  if a.verbose then .debug else configured.getD .info

def info (message : String) (fields : List (String × FieldValue)) : Record :=
  ⟨.info, message, fields⟩

def fatal (text : String) : Record := ⟨.error, s!"FATAL: {text}", []⟩

def jsonText (s : String) : String :=
  let spell (c : Char) : List Char :=
    if c = '"' then ['\\', '"']
    else if c = '\\' then ['\\', '\\']
    else if c.toNat < 32 then
      let digits := Nat.toDigits 16 c.toNat
      ['\\', 'u'] ++ List.replicate (4 - digits.length) '0' ++ digits
    else [c]
  String.ofList (['"'] ++ s.toList.flatMap spell ++ ['"'])

def jsonValue : FieldValue → String
  | .text s => jsonText s
  | .number n => toString n
  | .flag b => toString b

def compactValue : FieldValue → String
  | .text s => s
  | v => jsonValue v

def Style.line (style : Style) (r : Record) : String :=
  match style with
  | .compact =>
    " ".intercalate (r.level.label :: r.message :: r.fields.map fun (name, v) =>
      name ++ "=" ++ compactValue v)
  | .json =>
    let fields := (("message", FieldValue.text r.message) :: r.fields).map fun (name, v) =>
      jsonText name ++ ":" ++ jsonValue v
    "\x7b\"level\":" ++ jsonText r.level.label ++ ",\"fields\":\x7b" ++ ",".intercalate fields
      ++ "\x7d\x7d"

/-- A record without what depends on how fast the machine is, or nothing if all of it does. -/
def steady? (r : Record) : Option Record :=
  if r.message.startsWith "Still waiting" then none
  else some { r with fields := r.fields.filter (·.1 ≠ "waited_turns") }

/-- The report line by line. Two runs of one program print the same. -/
def Report.lines (r : Report) : List String := (r.records.filterMap steady?).map r.style.line

end Lockstep.Command
