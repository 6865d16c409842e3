import Governance.Call.Governor

set_option autoImplicit false

namespace Governance.Rehearsal

open Call (Session Adapter)

structure Reply where
  response : Response String
  cost : Duration
  setClock : Option Millis
  hangs : Bool

structure Script where
  pools : List (Except GovernanceError (List Endpoint))
  replies : Table (List Reply)
  -- What every failure is taken for, in place of the usual rules.
  retryable : Option Bool

structure Stage where
  script : Script
  routed : Nat
  invoked : Table Nat
  sink : Sink
  memory : MemorySink
  elected : Nat
  tripped : List Nat

namespace Stage

def start (script : Script) (sink : Sink) (memory : MemorySink) (tripped : List Nat) : Stage :=
  ⟨script, 0, .empty, sink, memory, 0, tripped⟩

def restart (w : Stage) (script : Script) : Stage :=
  { w with script := script, routed := 0, invoked := .empty }

end Stage

def entryOrLast {α : Type} (entries : List α) (n : Nat) : Option α :=
  entries[n]?.or entries.getLast?

def route (_ : Request) (s : Session Stage) :
    Except GovernanceError (List Endpoint) × Session Stage :=
  let pool := (entryOrLast s.world.script.pools s.world.routed).getD (.ok [])
  (pool, { s with world := { s.world with routed := s.world.routed + 1 } })

def replyOf (w : Stage) (address : String) : Reply :=
  let entries := (w.script.replies.get? address).getD []
  (entryOrLast entries ((w.invoked.get? address).getD 0)).getD
    ⟨.success ("ok " ++ address), .zero, none, false⟩

def invoke (_ : Request) (e : Endpoint) (s : Session Stage) :
    Option (Response String) × Session Stage :=
  let reply := replyOf s.world e.address
  let count := (s.world.invoked.get? e.address).getD 0 + 1
  let later := (ManualClock.mk s.clock).advance reply.cost
  let clock := reply.setClock.getD later.now
  let world := { s.world with invoked := s.world.invoked.insert e.address count }
  (if reply.hangs then none else some reply.response, { s with clock := clock, world := world })

def adapter (script : Script) : Adapter Stage String where
  route := route
  invoke := invoke
  isRetryable response policy := script.retryable.getD (response.isRetryable policy)

def failUntilOpen (now : Millis) (h : Circuit.Handle) :
    Nat → Circuit.Registry → Circuit.Registry × List Log.Entry
  | 0, r => (r, [])
  | calls + 1, r =>
    if (r.breaker? h).any (fun b => b.state = .opened) then (r, [])
    else
      let acquired := r.acquire h now
      match acquired.permit with
      | none => (acquired.registry, acquired.log)
      | some permit =>
        let settled := acquired.registry.settle permit .failure now
        let rest := failUntilOpen now h calls settled.1
        (rest.1, acquired.log ++ settled.2 ++ rest.2)

-- A closed breaker opens after as many failures as its threshold at the latest.
def openBreaker (r : Circuit.Registry) (key : String) (now : Millis) :
    Circuit.Registry × List Log.Entry :=
  match r.get? key with
  | none => (r, [])
  | some h =>
    let calls := match r.breaker? h with
      | some b => b.config.failureThreshold.toNat
      | none => 0
    failUntilOpen now h calls r

def react (e : Event) (s : Session Stage) : Session Stage × List Log.Entry :=
  match e with
  | .elected service endpoint _ =>
    let count := s.world.elected + 1
    let counted := { s with world := { s.world with elected := count } }
    match s.breakers with
    | some r =>
      if s.world.tripped.contains count then
        let tripped := openBreaker r (Circuit.Registry.endpointKey service endpoint) s.clock
        ({ counted with breakers := some tripped.1 }, tripped.2)
      else (counted, [])
    | none => (counted, [])
  | _ => (s, [])

def deliver (e : Event) (s : Session Stage) : Session Stage × List Log.Entry :=
  if s.world.sink.isReady then
    let reacted := react e s
    let w := reacted.1.world
    ({ reacted.1 with world := { w with memory := w.sink.deliver e w.memory } },
      reacted.2 ++ w.sink.deliverLog e)
  else (s, [])

def sleep (sleeper : Sleeper) (d : Duration) (s : Session Stage) : Session Stage :=
  { s with clock := (sleeper.sleep d ⟨s.clock⟩).now }

end Governance.Rehearsal
