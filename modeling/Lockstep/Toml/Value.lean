import Lockstep.Number.Scalar

/-! Values of configuration documents. -/

set_option autoImplicit false

namespace Lockstep.Toml

/-- A value of a document. Dates and times are recognised but carry nothing. -/
inductive Value where
  | text (s : String)
  | integer (i : Int)
  | float (x : Double)
  | boolean (b : Bool)
  | moment
  | array (items : List Value)
  | table (entries : List (String × Value))
  deriving Repr

namespace Value

def text? : Value → Option String
  | text s => some s
  | _ => none

def integer? : Value → Option Int
  | integer i => some i
  | _ => none

def array? : Value → Option (List Value)
  | array items => some items
  | _ => none

/-- A number; integers count as well. -/
def number? : Value → Option Double
  | float x => some x
  | integer i => some (.ofInt i)
  | _ => none

def natural? (bound : Nat) (v : Value) : Option Nat :=
  match v.integer? with
  | some i => if 0 ≤ i && i ≤ bound then some i.toNat else none
  | none => none

/-- A choice among names: the name itself, or a table whose only key is the name
and holds nothing. -/
def choice? : Value → Option String
  | text s => some s
  | table [(name, table [])] => some name
  | table [(name, array [])] => some name
  | _ => none

/-- Fields of a record: the entries of a table, or the items of an array in the
order of the field names. A moment is a record without fields. -/
def fields? (names : List String) : Value → Option (String → Option Value)
  | table entries => some fun name => entries.lookup name
  | array items => some fun name => (names.zip items).lookup name
  | moment => some fun _ => none
  | _ => none

end Value

end Lockstep.Toml
