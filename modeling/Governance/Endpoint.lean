import Governance.Table
import Governance.Text.Unsigned

set_option autoImplicit false

namespace Governance

inductive EndpointState where
  | healthy
  | warmup
  | suspend
  | recover
  | disable
  | closing
  deriving DecidableEq, Repr

namespace EndpointState

def isAccessible : EndpointState → Bool
  | .healthy | .warmup | .recover => true
  | .suspend | .disable | .closing => false

def name : EndpointState → String
  | .healthy => "Healthy"
  | .warmup => "Warmup"
  | .suspend => "Suspend"
  | .recover => "Recover"
  | .disable => "Disable"
  | .closing => "Closing"

end EndpointState

structure Endpoint where
  host : String
  port : UInt16
  state : EndpointState
  labels : Table String
  deriving DecidableEq

namespace Endpoint

def label? (e : Endpoint) (name : String) : Option String := e.labels.get? name

def address (e : Endpoint) : String := e.host ++ ":" ++ toString e.port.toNat

def id (e : Endpoint) : String := (e.label? "instanceId").getD e.address

def isAccessible (e : Endpoint) : Bool := e.state.isAccessible

def region? (e : Endpoint) : Option String := e.label? "region"

def zone? (e : Endpoint) : Option String := e.label? "zone"

def unit? (e : Endpoint) : Option String := e.label? "unit"

def cell? (e : Endpoint) : Option String := e.label? "cell"

def lane? (e : Endpoint) : Option String := e.label? "lane"

def timestamp? (e : Endpoint) : Option UInt64 :=
  (((e.label? "remote.timestamp").filter (· != "")).or (e.label? "timestamp")).bind Text.uint64?

end Endpoint

end Governance
