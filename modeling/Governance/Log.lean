set_option autoImplicit false

namespace Governance.Log

inductive Level where
  | debug
  | info
  | warn
  | error
  deriving DecidableEq, Repr

def Level.name : Level → String
  | .debug => "DEBUG"
  | .info => "INFO"
  | .warn => "WARN"
  | .error => "ERROR"

inductive Value where
  | number (n : Nat)
  | flag (b : Bool)
  | text (s : String)
  deriving DecidableEq, Repr

abbrev Fields := List (String × Value)

inductive Entry where
  | event (level : Level) (target message : String) (fields : Fields)
  | span (name : String) (fields : Fields)
  deriving DecidableEq, Repr

end Governance.Log
