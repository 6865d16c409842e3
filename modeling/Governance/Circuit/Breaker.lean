import Governance.Circuit.Config

set_option autoImplicit false

namespace Governance.Circuit

inductive State where
  | closed
  | opened
  | halfOpen
  deriving DecidableEq, Repr

def State.name : State → String
  | .closed => "closed"
  | .opened => "open"
  | .halfOpen => "half_open"

structure Breaker where
  key : String
  config : Config
  state : State
  failures : UInt64
  openedAt : Millis
  probes : UInt64

inductive Admission where
  | refused
  | call
  | probe
  deriving DecidableEq, Repr

namespace Breaker

def new (key : String) (config : Config) : Breaker := ⟨key, config, .closed, 0, 0, 0⟩

def recovery (b : Breaker) : Millis := b.config.recoveryTimeout.clockMillis

def isRecovering (b : Breaker) (now : Millis) : Bool := now.since b.openedAt < b.recovery

def hasSlot (b : Breaker) : Bool := b.probes < b.config.halfOpenMaxCalls

def isAvailable (b : Breaker) (now : Millis) : Bool :=
  match b.state with
  | .closed => true
  | .opened => !b.isRecovering now
  | .halfOpen => b.hasSlot

def takeSlot (b : Breaker) : Admission × Breaker :=
  if b.hasSlot then (.probe, { b with probes := b.probes + 1 }) else (.refused, b)

def tryAcquire (b : Breaker) (now : Millis) : Admission × Breaker :=
  match b.state with
  | .closed => (.call, b)
  | .opened =>
    if b.isRecovering now then (.refused, b) else takeSlot { b with state := .halfOpen }
  | .halfOpen => b.takeSlot

def reset (b : Breaker) : Breaker :=
  { b with state := .closed, failures := 0, openedAt := 0, probes := 0 }

def release (b : Breaker) (probe : Bool) : Breaker :=
  if probe then { b with probes := b.probes - 1 } else b

def onSuccess (b : Breaker) : Breaker :=
  match b.state with
  | .halfOpen => b.reset
  | .closed => { b with failures := 0 }
  | .opened => b

def trip (b : Breaker) (now : Millis) : Breaker :=
  { b with state := .opened, openedAt := now, probes := 0 }

-- Failures are counted in every state, but an open breaker is not opened anew.
def onFailure (b : Breaker) (now : Millis) : Breaker :=
  let counted := { b with failures := b.failures + 1 }
  match b.state with
  | .halfOpen => counted.trip now
  | .closed =>
    if b.config.failureThreshold ≤ counted.failures then counted.trip now else counted
  | .opened => counted

inductive Outcome where
  | success
  | failure
  | dropped
  deriving DecidableEq, Repr

def settle (b : Breaker) (probe : Bool) (outcome : Outcome) (now : Millis) : Breaker :=
  match outcome with
  | .success => (b.release probe).onSuccess
  | .failure => (b.release probe).onFailure now
  | .dropped => b.release probe

end Breaker

end Governance.Circuit
