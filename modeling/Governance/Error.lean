set_option autoImplicit false

namespace Governance

structure AdviceError where
  message : String
  deriving DecidableEq, Repr

inductive GovernanceError where
  | noEndpoint (service : String)
  | policyNotFound (uri : String)
  | route (service message : String)
  | circuitOpen (key : String)
  | advice (error : AdviceError)
  deriving DecidableEq, Repr

namespace GovernanceError

def message : GovernanceError → String
  | .noEndpoint service => "no endpoint available for service '" ++ service ++ "'"
  | .policyNotFound uri => "no governance policy found for '" ++ uri ++ "'"
  | .route service message => "failed to route service '" ++ service ++ "': " ++ message
  | .circuitOpen key => "circuit breaker open for '" ++ key ++ "'"
  | .advice error => "election advice failed: " ++ error.message

def kind : GovernanceError → String
  | .noEndpoint _ => "NoEndpoint"
  | .policyNotFound _ => "PolicyNotFound"
  | .route _ _ => "Route"
  | .circuitOpen _ => "CircuitOpen"
  | .advice _ => "Advice"

def isRetryable : GovernanceError → Bool
  | .circuitOpen _ => true
  | .noEndpoint _ | .policyNotFound _ | .route _ _ | .advice _ => false

def isConfiguration : GovernanceError → Bool
  | .noEndpoint _ | .policyNotFound _ | .route _ _ => true
  | .circuitOpen _ | .advice _ => false

end GovernanceError

structure ServiceError where
  message : String
  types : List String
  retryable : Bool
  code : Option String
  governance : Option GovernanceError
  deriving DecidableEq, Repr

namespace ServiceError

def new (message : String) : ServiceError := ⟨message, [], false, none, none⟩

def display (e : ServiceError) : String :=
  match e.code with
  | some code => e.message ++ " (code " ++ code ++ ")"
  | none => e.message

def isConfiguration (e : ServiceError) : Bool := e.governance.any GovernanceError.isConfiguration

def source? (e : ServiceError) : Option String := e.governance.map GovernanceError.message

def adviceType : String := "lanegov::error::AdviceError"

def governanceType : String := "lanegov::error::GovernanceError"

def serviceType : String := "lanegov::error::ServiceError"

def ioType (kind : String) : String := "std::io::ErrorKind::" ++ kind

def ofGovernance (e : GovernanceError) : ServiceError :=
  ⟨e.message, [governanceType], e.isRetryable, none, some e⟩

inductive Cause where
  | io (kind message : String)
  | advice (error : AdviceError)
  | governance (error : GovernanceError)
  | service (error : ServiceError)

namespace Cause

def message : Cause → String
  | .io _ message => message
  | .advice error => error.message
  | .governance error => error.message
  | .service error => error.display

def types : Cause → List String
  | .io kind _ => [ioType kind]
  | .advice _ => [adviceType]
  | .governance _ => [governanceType]
  | .service _ => [serviceType]

end Cause

-- Keeps of a cause its text and its name; what it knew besides is lost.
def ofCause (c : Cause) : ServiceError := ⟨c.message, c.types, false, none, none⟩

end ServiceError

inductive BuildError where
  | missing (part : String)
  deriving DecidableEq, Repr

def BuildError.message : BuildError → String
  | .missing part => "missing required field '" ++ part ++ "'"

end Governance
