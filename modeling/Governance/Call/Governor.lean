import Governance.Call.Run
import Governance.Policy.Registry

set_option autoImplicit false

namespace Governance

structure Governor (σ : Type) where
  policies : PolicyRegistry
  tags : Tag.Registry
  invoker : Call.Invoker σ

namespace Governor

variable {σ α : Type}

-- Advice that is given counts; without any, a request that tells who it belongs to is pinned.
def adviceFor (request : Request) (advice : Option Advice) : Option Advice :=
  advice.or (Advice.ofRequest? request)

def call (g : Governor σ) (adapter : Call.Adapter σ α) (request : Request)
    (advice : Option Advice) : Call.Flow σ (Option (Response α)) := do
  match g.policies.resolve request g.tags with
  | .error e =>
    Call.Flow.log [.event .warn "lanegov::governor" "no governance policy"
      [("service", .text request.service), ("error", .text e.message)]]
    return some (.refused e)
  | .ok rule =>
    Call.run ⟨g.invoker, adapter, request, rule.limits, adviceFor request advice⟩

end Governor

end Governance
