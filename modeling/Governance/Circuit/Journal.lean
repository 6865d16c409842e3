import Governance.Circuit.Breaker
import Governance.Log

set_option autoImplicit false

namespace Governance.Circuit.Breaker

def target : String := "lanegov::circuit_breaker"

def acquireLog (before after : Breaker) (admission : Admission) : List Log.Entry :=
  let turned :=
    if before.state = .opened ∧ after.state = .halfOpen then
      [.event .info target "circuit breaker → half-open" [("key", .text after.key)]]
    else []
  match admission with
  | .probe =>
    turned ++ [.event .debug target "circuit breaker: half-open probe"
      [("key", .text after.key), ("in_flight", .number after.probes.toNat),
        ("max", .number after.config.halfOpenMaxCalls.toNat)]]
  | .call | .refused => turned

def settleLog (before after : Breaker) : List Log.Entry :=
  if before.state = .halfOpen ∧ after.state = .closed then
    [.event .info target "circuit breaker → closed" [("key", .text after.key)]]
  else if before.state ≠ .opened ∧ after.state = .opened then
    [.event .warn target "circuit breaker → open"
      [("key", .text after.key), ("failures", .number after.failures.toNat),
        ("threshold", .number after.config.failureThreshold.toNat)]]
  else []

end Governance.Circuit.Breaker
