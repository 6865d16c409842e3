import Governance.Error
import Governance.Table
import Governance.Time

set_option autoImplicit false

namespace Governance

structure FailoverPolicy where
  id : Option UInt64
  retry : Option UInt32
  timeout : Option UInt64
  deriving DecidableEq

namespace FailoverPolicy

def blank : FailoverPolicy := ⟨none, none, none⟩

def inherit (target source : FailoverPolicy) : FailoverPolicy :=
  { target with
    retry := target.retry.or source.retry
    timeout := target.timeout.or source.timeout }

end FailoverPolicy

structure RetryPolicy where
  id : Option UInt64
  retry : Option UInt32
  interval : Option UInt64
  timeout : Option UInt64
  statusCodes : Option NameSet
  exceptions : Option NameSet
  deriving DecidableEq

namespace RetryPolicy

def blank : RetryPolicy := ⟨none, none, none, none, none, none⟩

def inherit (target source : RetryPolicy) : RetryPolicy :=
  { target with
    retry := target.retry.or source.retry
    interval := target.interval.or source.interval
    timeout := target.timeout.or source.timeout
    statusCodes := target.statusCodes.or source.statusCodes
    exceptions := target.exceptions.or source.exceptions }

def pause (p : RetryPolicy) : Duration := .ofMillis (p.interval.getD 0).toNat

def matchesTypes (names : NameSet) (e : ServiceError) : Bool := e.types.any names.contains

def matchesCode (p : RetryPolicy) (e : ServiceError) : Bool :=
  match p.statusCodes, e.code with
  | some codes, some code => codes.contains code
  | _, _ => false

def isRetry (p : RetryPolicy) (e : ServiceError) : Bool :=
  p.matchesCode e || p.exceptions.any (fun names => matchesTypes names e)

end RetryPolicy

structure BreakerPolicy where
  id : Option UInt64
  failureThreshold : Option UInt32
  recoveryTimeout : Option UInt64
  halfOpenMaxCalls : Option UInt32
  deriving DecidableEq

namespace BreakerPolicy

def blank : BreakerPolicy := ⟨none, none, none, none⟩

def inherit (target source : BreakerPolicy) : BreakerPolicy :=
  { target with
    failureThreshold := target.failureThreshold.or source.failureThreshold
    recoveryTimeout := target.recoveryTimeout.or source.recoveryTimeout
    halfOpenMaxCalls := target.halfOpenMaxCalls.or source.halfOpenMaxCalls }

end BreakerPolicy

-- A limit that may be absent, filled from one that may be absent: taken over whole when missing,
-- and field by field when present.
def inheritOption {α : Type} (inherit : α → α → α) (target source : Option α) : Option α :=
  match target, source with
  | some t, some s => some (inherit t s)
  | some t, none => some t
  | none, s => s

end Governance
