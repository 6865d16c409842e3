import Governance.Policy.Limits
import Governance.Text.Quoted

set_option autoImplicit false

namespace Governance

structure Response (α : Type) where
  outcome : Except ServiceError α
  predicate : Option (ServiceError → Bool)

namespace Response

variable {α : Type}

def success (payload : α) : Response α := ⟨.ok payload, none⟩

def failure (e : ServiceError) : Response α := ⟨.error e, none⟩

def refused (e : GovernanceError) : Response α := failure (.ofGovernance e)

def isSuccess (r : Response α) : Bool :=
  match r.outcome with
  | .ok _ => true
  | .error _ => false

def payload? (r : Response α) : Option α := r.outcome.toOption

def error? (r : Response α) : Option ServiceError :=
  match r.outcome with
  | .ok _ => none
  | .error e => some e

def code? (r : Response α) : Option String := r.error?.bind (·.code)

def isRetryable (r : Response α) (policy : Option RetryPolicy) : Bool :=
  match r.error? with
  | none => false
  | some e =>
    match e.governance, r.predicate with
    | some g, _ => g.isRetryable
    | none, some test => test e
    | none, none => e.retryable || policy.any (fun p => p.isRetry e)

end Response

def GovernanceError.describe : GovernanceError → String
  | .noEndpoint service => "NoEndpoint \x7b service: " ++ Text.quoted service ++ " \x7d"
  | .policyNotFound uri => "PolicyNotFound \x7b uri: " ++ Text.quoted uri ++ " \x7d"
  | .route service message =>
    "Route \x7b service: " ++ Text.quoted service ++ ", message: " ++ Text.quoted message ++ " \x7d"
  | .circuitOpen key => "CircuitOpen \x7b key: " ++ Text.quoted key ++ " \x7d"
  | .advice error => "Advice(AdviceError \x7b message: " ++ Text.quoted error.message ++ " \x7d)"

def describeOption {α : Type} (describe : α → String) : Option α → String
  | none => "None"
  | some a => "Some(" ++ describe a ++ ")"

def describeBool (b : Bool) : String := if b then "true" else "false"

def ServiceError.describe (e : ServiceError) : String :=
  "ServiceError \x7b message: " ++ Text.quoted e.message ++ ", types: " ++ Text.quotedList e.types
    ++ ", retryable: " ++ describeBool e.retryable
    ++ ", code: " ++ describeOption Text.quoted e.code
    ++ ", governance: " ++ describeOption GovernanceError.describe e.governance ++ " \x7d"

def Response.describe (r : Response String) : String :=
  let outcome := match r.outcome with
    | .ok payload => "Ok(" ++ Text.quoted payload ++ ")"
    | .error e => "Err(" ++ e.describe ++ ")"
  "ClusterResponse \x7b outcome: " ++ outcome
    ++ ", predicate: " ++ describeOption (fun _ => Text.quoted "<predicate>") r.predicate ++ " \x7d"

end Governance
