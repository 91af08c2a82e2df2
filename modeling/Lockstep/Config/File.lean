import Lockstep.Config.Error
import Lockstep.Text.Utf8
import Lockstep.Toml.Document

/-! Files that hold a configuration document. -/

set_option autoImplicit false

namespace Lockstep.Config

inductive File where
  | missing
  | directory
  | content (bytes : List UInt8)
  deriving DecidableEq, Repr

abbrev Files := String → File

def File.document : File → Except Error Toml.Value
  | missing => .error .fileNotFound
  | directory => .error .unparsable
  | content bytes =>
    match Text.Utf8.decode bytes with
    | .error _ => .error .unparsable
    | .ok text =>
      match Toml.parse? text with
      | some document => .ok document
      | none => .error .unparsable

def File.load {α : Type} (read : Toml.Value → Option α) (file : File) : Except Error α := do
  let document ← file.document
  match read document with
  | some a => return a
  | none => throw .unparsable

end Lockstep.Config
