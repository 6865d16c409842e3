import Governance.Circuit.Journal
import Governance.Table

set_option autoImplicit false

namespace Governance.Circuit

abbrev Handle := Nat

structure Permit where
  handle : Handle
  probe : Bool
  deriving DecidableEq, Repr

structure Registry where
  breakers : List Breaker
  keys : Table Handle

namespace Registry

def empty : Registry := ⟨[], .empty⟩

def breaker? (r : Registry) (h : Handle) : Option Breaker := r.breakers[h]?

def get? (r : Registry) (key : String) : Option Handle := r.keys.get? key

def find? (r : Registry) (key : String) : Option Breaker := (r.get? key).bind r.breaker?

def put (r : Registry) (h : Handle) (b : Breaker) : Registry :=
  { r with breakers := r.breakers.set h b }

def add (r : Registry) (b : Breaker) : Handle × Registry :=
  (r.breakers.length, { r with breakers := r.breakers ++ [b] })

def endpointKey (service address : String) : String := service ++ "@" ++ address

def obtain (r : Registry) (key : String) (policy : BreakerPolicy) :
    Except Error (Handle × Registry) :=
  match r.get? key with
  | some h => .ok (h, r)
  | none =>
    match Config.ofPolicy policy with
    | .error e => .error e
    | .ok config =>
      let added := r.add (.new key config)
      .ok (added.1, { added.2 with keys := added.2.keys.insert key added.1 })

def remove (r : Registry) (key : String) : Registry := { r with keys := r.keys.erase key }

def addressIn? (service key : String) : Option String :=
  let start := service.toList ++ ['@']
  if start.isPrefixOf key.toList then some (String.ofList (key.toList.drop start.length)) else none

def prune (r : Registry) (service : String) (live : List String) : Registry :=
  { r with
    keys := r.keys.retain (fun key =>
      match addressIn? service key with
      | some address => live.contains address
      | none => true) }

def prunedCount (r : Registry) (service : String) (live : List String) : Nat :=
  r.keys.size - (r.prune service live).keys.size

def reset (r : Registry) (key : String) : Except Error Registry :=
  match r.get? key with
  | some h => .ok { r with breakers := r.breakers.modify h Breaker.reset }
  | none => .error (.notFound key)

def snapshot (r : Registry) : List (String × Breaker) :=
  r.keys.entries.filterMap (fun e => (r.breaker? e.2).map (fun b => (e.1, b)))

structure Acquired where
  permit : Option Permit
  registry : Registry
  log : List Log.Entry

def acquire (r : Registry) (h : Handle) (now : Millis) : Acquired :=
  match r.breaker? h with
  | none => ⟨none, r, []⟩
  | some b =>
    let (admission, after) := b.tryAcquire now
    let permit := match admission with
      | .refused => none
      | .call => some ⟨h, false⟩
      | .probe => some ⟨h, true⟩
    ⟨permit, r.put h after, b.acquireLog after admission⟩

def settle (r : Registry) (p : Permit) (outcome : Breaker.Outcome) (now : Millis) :
    Registry × List Log.Entry :=
  match r.breaker? p.handle with
  | none => (r, [])
  | some b =>
    let after := b.settle p.probe outcome now
    (r.put p.handle after, b.settleLog after)

end Registry

end Governance.Circuit
