import Governance.Policy.Limits

set_option autoImplicit false

namespace Governance.Circuit

inductive Error where
  | invalidFailureThreshold
  | invalidRecoveryTimeout
  | invalidHalfOpenLimit
  | notFound (key : String)
  deriving DecidableEq, Repr

namespace Error

def message : Error → String
  | .invalidFailureThreshold => "failure_threshold must be > 0 (got 0)"
  | .invalidRecoveryTimeout => "recovery_timeout must be > 0 (got 0ns)"
  | .invalidHalfOpenLimit => "half_open_max_calls must be > 0 (got 0)"
  | .notFound key => "circuit breaker '" ++ key ++ "' not found"

def kind : Error → String
  | .invalidFailureThreshold => "InvalidFailureThreshold"
  | .invalidRecoveryTimeout => "InvalidRecoveryTimeout"
  | .invalidHalfOpenLimit => "InvalidHalfOpenLimit"
  | .notFound _ => "NotFound"

end Error

structure Config where
  failureThreshold : UInt64
  recoveryTimeout : Duration
  halfOpenMaxCalls : UInt64
  threshold_ne : failureThreshold ≠ 0
  recovery_ne : recoveryTimeout ≠ .zero
  limit_ne : halfOpenMaxCalls ≠ 0

namespace Config

def make (failureThreshold : UInt64) (recoveryTimeout : Duration) (halfOpenMaxCalls : UInt64) :
    Except Error Config :=
  if threshold : failureThreshold = 0 then .error .invalidFailureThreshold
  else if limit : halfOpenMaxCalls = 0 then .error .invalidHalfOpenLimit
  else if recovery : recoveryTimeout = .zero then .error .invalidRecoveryTimeout
  else .ok ⟨failureThreshold, recoveryTimeout, halfOpenMaxCalls, threshold, recovery, limit⟩

theorem make_eq_ok (c : Config) :
    make c.failureThreshold c.recoveryTimeout c.halfOpenMaxCalls = .ok c := by
  simp [make, c.threshold_ne, c.limit_ne, c.recovery_ne]

def ofPolicy (p : BreakerPolicy) : Except Error Config :=
  make (p.failureThreshold.getD 5).toUInt64 (.ofMillis (p.recoveryTimeout.getD 30000).toNat)
    (p.halfOpenMaxCalls.getD 1).toUInt64

end Config

end Governance.Circuit
