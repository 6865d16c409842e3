import Governance.Call.Election

set_option autoImplicit false

namespace Governance.Call

variable {σ α : Type}

inductive Attempt (α : Type) where
  | unelected (error : GovernanceError)
  | abandoned
  | succeeded (response : Response α)
  | failed (response : Response α) (retryable : Bool) (address : String)

def acquire (breaker : Option Circuit.Handle) :
    Flow σ (Except GovernanceError (Option Circuit.Permit)) := do
  let s ← Flow.session
  match s.breakers, breaker with
  | some r, some h =>
    match r.breaker? h with
    | none => return .ok none
    | some b =>
      let acquired := r.acquire h s.clock
      Flow.change (fun s => { s with breakers := some acquired.registry })
      Flow.log acquired.log
      match acquired.permit with
      | some permit => return .ok (some permit)
      | none => return .error (.circuitOpen b.key)
  | _, _ => return .ok none

def settle (permit : Option Circuit.Permit) (outcome : Circuit.Breaker.Outcome) :
    Flow σ Unit := do
  let s ← Flow.session
  match s.breakers, permit with
  | some r, some permit =>
    let settled := r.settle permit outcome s.clock
    Flow.change (fun s => { s with breakers := some settled.1 })
    Flow.log settled.2
  | _, _ => pure ()

def judge (c : Call σ α) (attempt : UInt32) (e : Endpoint) (permit : Option Circuit.Permit)
    (response : Response α) : Flow σ (Attempt α) := do
  let retryable := c.adapter.isRetryable response c.limits.retry
  settle permit (if retryable then .failure else .success)
  match response.error? with
  | some error =>
    Flow.note (.failed e error)
    Flow.change (c.adapter.onFailure c.request e error)
    Flow.log [.event .debug target "attempt failed"
      [("service", .text c.request.service), ("attempt", .number attempt.toNat),
        ("endpoint", .text e.address), ("retryable", .flag retryable),
        ("error", .text error.display)]]
  | none => pure ()
  return .failed response retryable e.address

def invoke (c : Call σ α) (attempt : UInt32) (e : Endpoint) (permit : Option Circuit.Permit) :
    Flow σ (Attempt α) := do
  Flow.log [.span "attempt"
    [("service", .text c.request.service), ("attempt", .number attempt.toNat),
      ("endpoint", .text e.address)]]
  Flow.note (.invoked e)
  match ← Flow.through (c.adapter.invoke c.request e) with
  | none =>
    settle permit .dropped
    return .abandoned
  | some response =>
    if response.isSuccess then
      settle permit .success
      Flow.note (.succeeded e)
      Flow.change (c.adapter.onSuccess c.request e)
      return .succeeded response
    else c.judge attempt e permit response

def attempt (c : Call σ α) (number : UInt32) (tried : List String) : Flow σ (Attempt α) := do
  match ← c.elect (number - 1).toNat tried with
  | .error e => return .unelected e
  | .ok elected =>
    let e := elected.endpoint
    c.invoker.emit (.elected c.request.service e.address number)
    match ← acquire elected.breaker with
    | .ok permit => c.invoke number e permit
    -- The breaker opened since the election.
    | .error refusal => c.judge number e none (.refused refusal)

end Governance.Call
