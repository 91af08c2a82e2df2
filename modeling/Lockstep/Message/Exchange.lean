import Lockstep.Parameter.Name
import Lockstep.Parameter.Value
import Lockstep.Wire.Field

/-! Parameter requests of the simulator and the robot's responses.

A request is new when its number is one above that of the last response.
-/

set_option autoImplicit false

namespace Lockstep.Message

open Wire Parameter

/-- A request as it stands in memory: every field as the peer left it. -/
structure Request where
  number : UInt64
  rawValue : WireValue
  rawName : WireName
  rawKind : UInt32
  rawValueKind : UInt32
  deriving DecidableEq, Inhabited

instance : Layout Request := .ofFields 1
  [.of "request_number" Request.number fun v s => { s with number := v },
   .of "value" Request.rawValue fun v s => { s with rawValue := v },
   .of "name" Request.rawName fun v s => { s with rawName := v },
   .of "request_kind" Request.rawKind fun v s => { s with rawKind := v },
   .of "value_kind" Request.rawValueKind fun v s => { s with rawValueKind := v }]

def decodeRequestKind (tag : UInt32) : Except Parameter.Error RequestKind :=
  match RequestKind.ofCode? tag with
  | some k => .ok k
  | none => .error (.unknownRequest tag)

def decodeKind (tag : UInt32) : Except Parameter.Error Kind :=
  match Kind.ofCode? tag with
  | some k => .ok k
  | none => .error (.unknownKind tag)

namespace Request

def kind (r : Request) : Except Parameter.Error RequestKind := decodeRequestKind r.rawKind

def valueKind (r : Request) : Except Parameter.Error Kind := decodeKind r.rawValueKind

def name (r : Request) : Except Parameter.Error String := decodeName r.rawName

def value (r : Request) : Except Parameter.Error Value := Value.ofTagged r.rawValueKind r.rawValue

/-- A complete request; nothing is made of a text that is no name. -/
def make (number : UInt64) (kind : RequestKind) (name : String) (value : Value) :
    Except Parameter.Error Request := do
  let rawName ← encodeName name
  return ⟨number, value.toWire, rawName, kind.code, value.kind.code⟩

end Request

structure Response where
  -- Number of the last request that was handled.
  number : UInt64
  parameterCount : UInt64
  rawValue : WireValue
  rawName : WireName
  rawKind : UInt32
  rawValueKind : UInt32
  deriving DecidableEq, Inhabited

instance : Layout Response := .ofFields 1
  [.of "request_number" Response.number fun v s => { s with number := v },
   .of "n_parameters" Response.parameterCount fun v s => { s with parameterCount := v },
   .of "value" Response.rawValue fun v s => { s with rawValue := v },
   .of "name" Response.rawName fun v s => { s with rawName := v },
   .of "request_kind" Response.rawKind fun v s => { s with rawKind := v },
   .of "value_kind" Response.rawValueKind fun v s => { s with rawValueKind := v }]

namespace Response

def kind (r : Response) : Except Parameter.Error RequestKind := decodeRequestKind r.rawKind

def name (r : Response) : Except Parameter.Error String := decodeName r.rawName

def value (r : Response) : Except Parameter.Error Value := Value.ofTagged r.rawValueKind r.rawValue

/-- The response that repeats a request with the value that is now current. -/
def acknowledge (request : Request) (value : Value) (parameterCount : Nat) : Response :=
  ⟨request.number, UInt64.ofNat parameterCount, value.toWire, request.rawName, request.rawKind,
    value.kind.code⟩

end Response

end Lockstep.Message
