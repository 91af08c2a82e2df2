import Lockstep.Channel.Name

/-! What can be wrong with a configuration file. -/

set_option autoImplicit false

namespace Lockstep.Config

inductive Invalid where
  | emptyServiceName
  | names (fault : Channel.Names.Fault)
  | notPositive (field : String)
  deriving DecidableEq, Repr

def Invalid.message : Invalid → String
  | emptyServiceName => "service_name cannot be empty"
  | names fault => fault.message
  | notPositive field => s!"{field} must be positive"

inductive Error where
  | fileNotFound
  -- The file cannot be read as text, or is not a document of the expected form.
  | unparsable
  | invalid (cause : Invalid)
  deriving DecidableEq, Repr

def Error.message : Error → String
  | fileNotFound => "Configuration file not found"
  | unparsable => "Failed to parse configuration:"
  | invalid cause => s!"Configuration validation failed: {cause.message}"

end Lockstep.Config
