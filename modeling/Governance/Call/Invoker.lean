import Governance.Call.Flow
import Governance.Policy.Service
import Governance.Routing

set_option autoImplicit false

namespace Governance.Call

structure Adapter (σ α : Type) where
  route : Request → Session σ → Except GovernanceError (List Endpoint) × Session σ
  -- No response means that none will ever come, and the call is given up.
  invoke : Request → Endpoint → Session σ → Option (Response α) × Session σ
  isRetryable : Response α → Option RetryPolicy → Bool := fun r policy => r.isRetryable policy
  onSuccess : Request → Endpoint → Session σ → Session σ := fun _ _ s => s
  onFailure : Request → Endpoint → ServiceError → Session σ → Session σ := fun _ _ _ s => s

structure Invoker (σ : Type) where
  location : Location
  routes : Routing.Chain
  mode : AdviceFailureMode
  sleep : Duration → Session σ → Session σ
  deliver : Event → Session σ → Session σ × List Log.Entry

namespace Invoker

variable {σ : Type}

def build (location : Option Location) (routes : Routing.Chain) (mode : AdviceFailureMode)
    (sleep : Duration → Session σ → Session σ)
    (deliver : Event → Session σ → Session σ × List Log.Entry) :
    Except BuildError (Invoker σ) :=
  match location with
  | some location => .ok ⟨location, routes, mode, sleep, deliver⟩
  | none => .error (.missing "location")

def emit (i : Invoker σ) (e : Event) : Flow σ Unit := fun s =>
  ⟨(), (i.deliver e s).1, .emitted e :: (i.deliver e s).2.map .logged⟩

def pause (i : Invoker σ) (d : Duration) : Flow σ Unit :=
  if d = .zero then pure ()
  else do
    Flow.note (.slept d)
    Flow.change (i.sleep d)

end Invoker

end Governance.Call

namespace Governance

structure Call (σ α : Type) where
  invoker : Call.Invoker σ
  adapter : Call.Adapter σ α
  request : Request
  limits : Limits
  advice : Option Advice

namespace Call

def target : String := "lanegov::cluster"

end Call

end Governance
