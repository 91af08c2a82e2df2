import Lockstep.Parameter.Name
import Lockstep.Parameter.Value

/-! Tables of declared parameters.

A parameter is declared with a kind and holds that kind's zero until it is
first written. Entries are kept in the order of their names.
-/

set_option autoImplicit false

namespace Lockstep.Parameter

structure Entry where
  name : String
  value : Value
  -- Whether the parameter was ever written.
  initialized : Bool
  deriving DecidableEq, Repr

def Entry.kind (e : Entry) : Kind := e.value.kind

structure Table where
  -- What the table is called in messages.
  label : String
  entries : List Entry
  deriving DecidableEq, Repr

namespace Table

inductive Refusal where
  | unknown (name : String) (table : String)
  | mismatch (name : String) (stored requested : Kind)
  | incomplete (table : String) (missing : List String)
  deriving DecidableEq, Repr

def Refusal.message : Refusal → String
  | unknown name table => s!"unknown parameter '{name}' in {table} table"
  | mismatch name stored requested =>
    s!"parameter '{name}' is {stored.name}, request used {requested.name}"
  | incomplete table missing =>
    let names := String.intercalate ", " missing
    s!"not all parameters initialized when going into RunController: {table} table is missing {names}"

def empty (label : String) : Table := ⟨label, []⟩

def insertEntry (e : Entry) : List Entry → List Entry
  | [] => [e]
  | head :: rest =>
    if e.name = head.name then e :: rest
    else if e.name < head.name then e :: head :: rest
    else head :: insertEntry e rest

/-- Declare a parameter; declaring it again resets it. -/
def declare (t : Table) (name : String) (kind : Kind) : Except Error Table := do
  checkName name
  return { t with entries := insertEntry ⟨name, .zero kind, false⟩ t.entries }

def lookup? (t : Table) (name : String) : Option Entry := t.entries.find? (·.name == name)

def get (t : Table) (name : String) : Except Refusal Value :=
  match t.lookup? name with
  | some e => .ok e.value
  | none => .error (.unknown name t.label)

def set (t : Table) (name : String) (value : Value) : Except Refusal Table :=
  match t.lookup? name with
  | none => .error (.unknown name t.label)
  | some e =>
    if e.kind = value.kind then
      .ok { t with entries := t.entries.map fun e =>
        if e.name = name then ⟨name, value, true⟩ else e }
    else .error (.mismatch name e.kind value.kind)

def accepts (t : Table) (name : String) (value : Value) : Bool :=
  match t.lookup? name with
  | some e => e.kind = value.kind
  | none => false

def uninitialized (t : Table) : List String :=
  (t.entries.filter (!·.initialized)).map (·.name)

def isComplete (t : Table) : Bool := t.entries.all (·.initialized)

def requireComplete (t : Table) : Except Refusal Unit :=
  if t.uninitialized.isEmpty then .ok () else .error (.incomplete t.label t.uninitialized)

def size (t : Table) : Nat := t.entries.length

/-- Write values one after the other up to the first that is refused. Gives the
table then, and how it ended. -/
def apply (t : Table) : List (String × Value) → Table × Except Refusal Unit
  | [] => (t, .ok ())
  | (name, value) :: rest =>
    match t.set name value with
    | .ok t => t.apply rest
    | .error refusal => (t, .error refusal)

def float? (t : Table) (name : String) : Option Single :=
  match t.lookup? name with
  | some ⟨_, .float x, _⟩ => some x
  | _ => none

def double? (t : Table) (name : String) : Option Double :=
  match t.lookup? name with
  | some ⟨_, .double x, _⟩ => some x
  | _ => none

def s64? (t : Table) (name : String) : Option Int64 :=
  match t.lookup? name with
  | some ⟨_, .s64 i, _⟩ => some i
  | _ => none

def vec3Float? (t : Table) (name : String) : Option (Vector Single 3) :=
  match t.lookup? name with
  | some ⟨_, .vec3Float v, _⟩ => some v
  | _ => none

def vec3Double? (t : Table) (name : String) : Option (Vector Double 3) :=
  match t.lookup? name with
  | some ⟨_, .vec3Double v, _⟩ => some v
  | _ => none

def declareAll (t : Table) (parameters : List (String × Kind)) : Except Error Table :=
  parameters.foldlM (fun t (name, kind) => t.declare name kind) t

/-- A table of fresh parameters. The names are taken as they are. -/
def ofDeclarations (label : String) (parameters : List (String × Kind)) : Table :=
  ⟨label, parameters.foldl (fun es (name, kind) => insertEntry ⟨name, .zero kind, false⟩ es) []⟩

def standStiffness : String := "stand_kp_joint"

def standDamping : String := "stand_kd_joint"

def robot : Table := ofDeclarations "robot"
  [("controller_dt", .double), ("control_mode", .s64), ("cheater_mode", .s64),
    (standStiffness, .vec3Double), (standDamping, .vec3Double),
    ("imu_process_noise_position", .double), ("foot_sensor_noise_position", .double),
    ("use_rc", .s64)]

end Table

end Lockstep.Parameter
