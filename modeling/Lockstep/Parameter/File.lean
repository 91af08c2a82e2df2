import Lockstep.Config.File
import Lockstep.Parameter.Name
import Lockstep.Parameter.Value

/-! Parameter files: a kind and a value under each name. -/

set_option autoImplicit false

namespace Lockstep.Parameter

/-- What a file says about one parameter, before value and kind are compared. -/
structure FileEntry where
  kind : Kind
  value : Toml.Value
  deriving Repr

def FileEntry.read (v : Toml.Value) : Option FileEntry := do
  let fields ← v.fields? ["kind", "value"]
  let kind ← (← fields "kind").choice? >>= Kind.ofName?
  let value ← fields "value"
  return ⟨kind, value⟩

def triple? (v : Toml.Value) : Option (Vector Double 3) :=
  match v.array? with
  | some [x, y, z] => do return #v[← x.number?, ← y.number?, ← z.number?]
  | _ => none

def Value.ofDocument? (kind : Kind) (v : Toml.Value) : Option Value :=
  match kind with
  | .float => v.number?.map fun x => .float x.narrow
  | .double => v.number?.map .double
  | .s64 => v.integer?.map fun i => .s64 (Int64.ofInt i)
  | .vec3Float => (triple? v).map fun t => .vec3Float (t.map Double.narrow)
  | .vec3Double => (triple? v).map .vec3Double

def insertByName {α : Type} (name : String) (a : α) : List (String × α) → List (String × α)
  | [] => [(name, a)]
  | (other, b) :: rest =>
    if name < other then (name, a) :: (other, b) :: rest
    else (other, b) :: insertByName name a rest

def readEntries (document : Toml.Value) : Option (List (String × FileEntry)) := do
  let fields ← document.fields? ["parameters"]
  match fields "parameters" with
  | none => return []
  | some (.table entries) =>
    let read ← entries.mapM fun (name, v) => (FileEntry.read v).map (name, ·)
    return read.foldl (fun sorted (name, entry) => insertByName name entry sorted) []
  | some _ => none

/-- A value under a name, if kind, value and name fit. -/
def FileEntry.decode (name : String) (entry : FileEntry) : Except Error (String × Value) := do
  match Value.ofDocument? entry.kind entry.value with
  | none => throw (.valueMismatch name entry.kind)
  | some value =>
    checkName name
    return (name, value)

/-- All values of a parameter file, sorted by name. -/
def loadValues (file : Config.File) : Except Error (List (String × Value)) := do
  let entries ← (file.load readEntries).mapError .file
  entries.mapM fun (name, entry) => entry.decode name

end Lockstep.Parameter
