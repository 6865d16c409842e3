import Governance.Election.Advice
import Governance.Election.Balancer
import Governance.Log

set_option autoImplicit false

namespace Governance

inductive AdviceFailureMode where
  | degrade
  | fail
  deriving DecidableEq, Repr

def AdviceFailureMode.name : AdviceFailureMode → String
  | .degrade => "Degrade"
  | .fail => "Fail"

structure Picker where
  balancer : Balancer
  mode : AdviceFailureMode

structure Verdict where
  outcome : Except GovernanceError Endpoint
  adviceFailure : Option AdviceError
  asked : Bool
  balancer : Balancer

namespace Picker

def standard : Picker := ⟨.standard, .degrade⟩

def describe (p : Picker) : String :=
  "Picker \x7b balancer: " ++ p.balancer.describe ++ ", mode: " ++ p.mode.name ++ " \x7d"

def choose (p : Picker) (r : Request) (candidates : List Endpoint) (asked : Bool)
    (failure : Option AdviceError) : Verdict :=
  let (chosen, balancer) := p.balancer.choose r candidates
  let outcome := match chosen with
    | some e => .ok e
    | none => .error (.noEndpoint r.service)
  ⟨outcome, failure, asked, balancer⟩

def elect (p : Picker) (r : Request) (candidates : List Endpoint) (advice : Option Advice)
    (earlier : Nat) : Verdict :=
  if candidates.isEmpty then ⟨.error (.noEndpoint r.service), none, false, p.balancer⟩
  else
    match advice with
    | none => p.choose r candidates false none
    | some advice =>
      match advice earlier candidates with
      | .ok (some e) => ⟨.ok e, none, true, p.balancer⟩
      | .ok none => p.choose r candidates true none
      | .error e =>
        match p.mode with
        | .fail => ⟨.error (.advice e), some e, true, p.balancer⟩
        | .degrade => p.choose r candidates true (some e)

def log (p : Picker) (r : Request) (v : Verdict) : List Log.Entry :=
  match v.adviceFailure with
  | some e =>
    [.event .error "lanegov::picker" "election advice failed"
      [("service", .text r.service), ("error", .text e.message), ("mode", .text p.mode.name)]]
  | none => []

def pickWith (p : Picker) (decided : Option (Except GovernanceError Endpoint)) (r : Request)
    (candidates : List Endpoint) (advice : Option Advice) (earlier : Nat := 0) : Verdict :=
  match decided with
  | some outcome => ⟨outcome, none, false, p.balancer⟩
  | none => p.elect r candidates advice earlier

end Picker

end Governance
