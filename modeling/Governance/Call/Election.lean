import Governance.Call.Invoker

set_option autoImplicit false

namespace Governance.Call

variable {σ α : Type}

def isOpen (s : Session σ) (service : String) (policy : Option BreakerPolicy) (e : Endpoint) :
    Bool :=
  match s.breakers, policy with
  | some r, some _ =>
    (r.find? (Circuit.Registry.endpointKey service e.address)).any (fun b => !b.isAvailable s.clock)
  | _, _ => false

def preferUntried (tried : List String) (available : List Endpoint) : List Endpoint :=
  let fresh := available.filter (fun e => !tried.contains e.address)
  if fresh.isEmpty then available else fresh

def kept (c : Call σ α) (pool : List Endpoint) : List Endpoint :=
  c.invoker.routes.apply ⟨c.invoker.location, c.request⟩ pool

def available (c : Call σ α) (s : Session σ) (pool : List Endpoint) : List Endpoint :=
  (c.kept pool).filter (fun e => !isOpen s c.request.service c.limits.breaker e)

def candidates (c : Call σ α) (s : Session σ) (tried : List String) (pool : List Endpoint) :
    Except GovernanceError (List Endpoint) :=
  if (c.kept pool).isEmpty then .error (.noEndpoint c.request.service)
  else if (c.available s pool).isEmpty then .error (.circuitOpen c.request.service)
  else .ok (preferUntried tried (c.available s pool))

def route (c : Call σ α) : Flow σ (Except GovernanceError (List Endpoint)) := do
  Flow.note .routed
  Flow.through (c.adapter.route c.request)

def pick (c : Call σ α) (earlier : Nat) (candidates : List Endpoint) :
    Flow σ (Except GovernanceError Endpoint) := do
  let s ← Flow.session
  let picker : Picker := ⟨s.balancer, c.invoker.mode⟩
  let verdict := picker.elect c.request candidates c.advice earlier
  Flow.change (fun s => { s with balancer := verdict.balancer })
  if verdict.asked then Flow.note (.advised candidates)
  Flow.log (picker.log c.request verdict)
  match verdict.adviceFailure with
  | some e => c.invoker.emit (.adviceFailed e.message)
  | none => pure ()
  return verdict.outcome

-- Registers the breaker of an endpoint that has none. Endpoints that have left the pool lose
-- theirs at the same time; a policy that is no valid setting leaves the endpoint without one.
def register (c : Call σ α) (r : Circuit.Registry) (policy : BreakerPolicy) (key : String)
    (pool : List Endpoint) : Flow σ (Option Circuit.Handle) := do
  let service := c.request.service
  match r.obtain key policy with
  | .error e =>
    Flow.log [.event .warn target "invalid circuit breaker policy; breaking disabled"
      [("key", .text key), ("error", .text e.message)]]
    return none
  | .ok (h, grown) =>
    let live := pool.map Endpoint.address
    let pruned := grown.prunedCount service live
    Flow.change (fun s => { s with breakers := some (grown.prune service live) })
    if 0 < pruned then
      Flow.log [.event .debug target "dropped circuit breakers of departed endpoints"
        [("service", .text service), ("pruned", .number pruned)]]
    return some h

def breakerFor (c : Call σ α) (e : Endpoint) (pool : List Endpoint) :
    Flow σ (Option Circuit.Handle) := do
  let s ← Flow.session
  match s.breakers, c.limits.breaker with
  | some r, some policy =>
    let key := Circuit.Registry.endpointKey c.request.service e.address
    match r.get? key with
    | some h => return some h
    | none => c.register r policy key pool
  | _, _ => return none

structure Elected where
  endpoint : Endpoint
  breaker : Option Circuit.Handle

-- The election after so many attempts, in each of which the advice was asked.
def elect (c : Call σ α) (earlier : Nat) (tried : List String) :
    Flow σ (Except GovernanceError Elected) := do
  match ← c.route with
  | .error e => return .error e
  | .ok pool =>
    match c.candidates (← Flow.session) tried pool with
    | .error e => return .error e
    | .ok candidates =>
      match ← c.pick earlier candidates with
      | .error e => return .error e
      | .ok endpoint => return .ok ⟨endpoint, ← c.breakerFor endpoint pool⟩

end Governance.Call
