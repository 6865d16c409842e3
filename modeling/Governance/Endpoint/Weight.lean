import Governance.Endpoint
import Governance.Request
import Governance.Text.Blank
import Governance.Time

set_option autoImplicit false

namespace Governance.Endpoint

def defaultWeight : UInt32 := 100

def weightLabel? (e : Endpoint) (r : Request) : Option String :=
  (r.method.bind (fun m => e.label? (m ++ ".weight"))).or (e.label? "weight")

-- The weight once warm. A label that is no number counts as none.
def fullWeight (e : Endpoint) (r : Request) : UInt32 :=
  ((e.weightLabel? r).bind (fun text => Text.uint32? (Text.trim text.toList))).getD defaultWeight

def warmup (e : Endpoint) : UInt64 := ((e.label? "warmup").bind Text.uint64?).getD 0

def warming (weight : UInt32) (uptime warmup : UInt64) : UInt32 :=
  (max 1 (weight.toNat * uptime.toNat / warmup.toNat)).toUInt32

def weightAt (e : Endpoint) (r : Request) (now : Millis) : UInt32 :=
  let weight := e.fullWeight r
  match e.timestamp? with
  | none => weight
  | some started =>
    if weight = 0 || e.warmup = 0 || e.warmup ≤ now.since started then weight
    else warming weight (now.since started) e.warmup

end Governance.Endpoint
