import Governance.Call.Attempt

set_option autoImplicit false

namespace Governance.Call

variable {σ α : Type}

structure Budget where
  started : Millis
  maxRetries : UInt32
  timeout : Option Millis
  interval : Duration

namespace Budget

def ofLimits (l : Limits) (started : Millis) : Budget :=
  ⟨started, l.maxRetries, l.timeout?, l.pause⟩

-- The time limit, if a pause that starts now would reach it.
def overtime? (b : Budget) (now : Millis) : Option Millis :=
  b.timeout.filter (fun timeout => timeout ≤ (now.since b.started).plus b.interval.clockMillis)

def AllowsRetry (b : Budget) (attempts : Nat) (now : Millis) : Prop :=
  attempts ≤ b.maxRetries.toNat ∧ b.overtime? now = none

end Budget

def finish (c : Call σ α) (b : Budget) (response : Response α) (attempts : UInt32)
    (exhausted : Bool) : Flow σ (Response α) := do
  let now ← Flow.now
  let duration := Duration.ofMillis (now.since b.started).toNat
  if response.isSuccess then c.invoker.emit (.succeeded attempts duration)
  else
    if exhausted then c.invoker.emit (.exhausted attempts duration)
    c.invoker.emit (.failed attempts duration)
  return response

-- The attempts before that one, but never none at all.
def made (number : UInt32) : UInt32 := if number ≤ 1 then 1 else number - 1

def giveUp (c : Call σ α) (b : Budget) (number : UInt32) (last : Option (Response α))
    (e : GovernanceError) : Flow σ (Response α) := do
  match last with
  | some response =>
    Flow.log [.event .debug target "election failed on retry; returning last failure"
      [("service", .text c.request.service), ("attempt", .number number.toNat),
        ("error", .text e.message)]]
    c.finish b response (made number) false
  | none =>
    Flow.log [.event .warn target "election failed"
      [("service", .text c.request.service), ("error", .text e.message)]]
    c.finish b (.refused e) (made number) false

def outOfTime (b : Budget) (number : UInt32) : Flow σ Bool := do
  let now ← Flow.now
  match b.overtime? now with
  | none => return false
  | some timeout =>
    Flow.log [.event .debug target "retry budget exhausted by timeout"
      [("attempt", .number number.toNat), ("elapsed", .number (now.since b.started).toNat),
        ("timeout", .number timeout.toNat)]]
    return true

def remember (address : String) (tried : List String) : List String :=
  if tried.contains address then tried else tried ++ [address]

-- Attempts from the given number on, with so many retries left; no response if one never came. The
-- retries end the loop where the number would exceed the most retries there may be. No number of 32
-- bits exceeds 4294967295, so under that limit this is the loop up to the first overflow only.
def attempts (c : Call σ α) (b : Budget) (retries : Nat) (number : UInt32) (tried : List String)
    (last : Option (Response α)) : Flow σ (Option (Response α)) := do
  match ← c.attempt number tried with
  | .unelected e => some <$> c.giveUp b number last e
  | .abandoned => return none
  | .succeeded response => some <$> c.finish b response number false
  | .failed response retryable address =>
    if retryable then
      match retries with
      | 0 => some <$> c.finish b response number (b.maxRetries != 0)
      | left + 1 =>
        if ← outOfTime b number then some <$> c.finish b response number (b.maxRetries != 0)
        else
          c.invoker.emit (.retrying number b.interval)
          c.invoker.pause b.interval
          c.attempts b left (number + 1) (remember address tried) (some response)
    else some <$> c.finish b response number false

def run (c : Call σ α) : Flow σ (Option (Response α)) := do
  let b := Budget.ofLimits c.limits (← Flow.now)
  c.attempts b b.maxRetries.toNat 1 [] none

end Governance.Call
