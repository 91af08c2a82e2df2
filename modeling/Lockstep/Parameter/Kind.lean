/-! Kinds of control parameters and of requests about them. -/

set_option autoImplicit false

namespace Lockstep.Parameter

inductive Kind where
  | float
  | double
  | s64
  | vec3Double
  | vec3Float
  deriving DecidableEq, Repr

namespace Kind

def code : Kind → UInt32
  | float => 0
  | double => 1
  | s64 => 2
  | vec3Double => 3
  | vec3Float => 4

def ofCode? : UInt32 → Option Kind
  | 0 => some float
  | 1 => some double
  | 2 => some s64
  | 3 => some vec3Double
  | 4 => some vec3Float
  | _ => none

@[simp] theorem ofCode?_code (k : Kind) : ofCode? k.code = some k := by cases k <;> rfl

def name : Kind → String
  | float => "float"
  | double => "double"
  | s64 => "s64"
  | vec3Double => "vec3_double"
  | vec3Float => "vec3_float"

def all : List Kind := [float, double, s64, vec3Double, vec3Float]

def ofName? (text : String) : Option Kind := all.find? (·.name == text)

def width : Kind → Nat
  | float => 4
  | double => 8
  | s64 => 8
  | vec3Double => 24
  | vec3Float => 12

end Kind

/-- A request reads or writes, in the robot's own table or in the controller's. -/
structure RequestKind where
  writes : Bool
  user : Bool
  deriving DecidableEq, Repr

namespace RequestKind

def get (user : Bool) : RequestKind := ⟨false, user⟩

def set (user : Bool) : RequestKind := ⟨true, user⟩

def code : RequestKind → UInt32
  | ⟨false, false⟩ => 0
  | ⟨true, false⟩ => 1
  | ⟨false, true⟩ => 2
  | ⟨true, true⟩ => 3

def ofCode? : UInt32 → Option RequestKind
  | 0 => some ⟨false, false⟩
  | 1 => some ⟨true, false⟩
  | 2 => some ⟨false, true⟩
  | 3 => some ⟨true, true⟩
  | _ => none

@[simp] theorem ofCode?_code (k : RequestKind) : ofCode? k.code = some k := by
  rcases k with ⟨_ | _, _ | _⟩ <;> rfl

def label (k : RequestKind) : String :=
  (if k.writes then "set " else "get ") ++ (if k.user then "user" else "robot") ++ " parameter"

end RequestKind

end Lockstep.Parameter
