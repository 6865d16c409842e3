import Governance.Log
import Governance.Time

set_option autoImplicit false

namespace Governance

-- A number from outside is read in the 32 bits that hold it.
scoped instance countOfNat : Coe Nat UInt32 := ⟨UInt32.ofNat⟩

inductive Event where
  | elected (service endpoint : String) (attempt : UInt32)
  | adviceFailed (message : String)
  | retrying (attempt : UInt32) (delay : Duration)
  | exhausted (attempts : UInt32) (duration : Duration)
  | succeeded (attempts : UInt32) (duration : Duration)
  | failed (attempts : UInt32) (duration : Duration)
  deriving DecidableEq, Repr

namespace Event

def countAndSpan (label : String) (count : UInt32) (spanLabel : String) (span : Duration) :
    String :=
  "(" ++ label ++ "=" ++ toString count ++ ", " ++ spanLabel ++ "=" ++ toString span.millis ++ "ms)"

def display : Event → String
  | .elected service endpoint attempt =>
    "Election::Elected(service=" ++ service ++ ", endpoint=" ++ endpoint ++ ", attempt="
      ++ toString attempt ++ ")"
  | .adviceFailed message => "Election::AdviceFailed(" ++ message ++ ")"
  | .retrying attempt delay => "Retry::Attempt" ++ countAndSpan "attempt" attempt "delay" delay
  | .exhausted attempts duration =>
    "Retry::Exhausted" ++ countAndSpan "attempts" attempts "duration" duration
  | .succeeded attempts duration =>
    "Request::Success" ++ countAndSpan "attempts" attempts "duration" duration
  | .failed attempts duration =>
    "Request::Failure" ++ countAndSpan "attempts" attempts "duration" duration

end Event

structure MemorySink where
  capacity : Nat
  events : List Event
  evicted : UInt64
  capacity_pos : 0 < capacity

namespace MemorySink

def withCapacity (capacity : Nat) : MemorySink := ⟨max capacity 1, [], 0, by omega⟩

def standard : MemorySink := withCapacity 10000

def store (m : MemorySink) (e : Event) : MemorySink :=
  if m.capacity ≤ m.events.length then
    { m with events := m.events.drop 1 ++ [e], evicted := m.evicted + 1 }
  else { m with events := m.events ++ [e] }

def clear (m : MemorySink) : MemorySink := { m with events := [] }

end MemorySink

inductive Sink where
  | memory
  | discard
  | log
  | neverReady
  | failing
  deriving DecidableEq, Repr

namespace Sink

-- The sink takes the event, whatever it then does with it.
def isReady : Sink → Bool
  | .neverReady => false
  | .memory | .discard | .log | .failing => true

def deliver (s : Sink) (e : Event) (m : MemorySink) : MemorySink :=
  match s with
  | .memory => m.store e
  | .discard | .log | .neverReady | .failing => m

def deliverLog (s : Sink) (e : Event) : List Log.Entry :=
  match s with
  | .log => [.event .info "lanegov::telemetry" "governance_event" [("event", .text e.display)]]
  | .memory | .discard | .neverReady | .failing => []

end Sink

end Governance
