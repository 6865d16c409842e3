import Governance.Table

set_option autoImplicit false

namespace Governance

inductive Direction where
  | outbound
  | inbound (clientIp : String)
  deriving DecidableEq

structure Request where
  service : String
  group : Option String
  method : Option String
  headers : Table String
  cookies : Table String
  stickyId : Option String
  direction : Direction
  deriving DecidableEq

namespace Request

def plain (service : String) (method : Option String) : Request :=
  ⟨service, none, method, .empty, .empty, none, .outbound⟩

def header? (r : Request) (name : String) : Option String := r.headers.get? name

def cookie? (r : Request) (name : String) : Option String := r.cookies.get? name

def clientIp? (r : Request) : Option String :=
  match r.direction with
  | .inbound ip => some ip
  | .outbound => none

def laneHeader : String := "x-live-lane"

def unitHeader : String := "x-live-unit"

-- The identity that pins a request to an endpoint; an empty one pins nothing.
def stickyKey? (r : Request) : Option String := r.stickyId.filter (· != "")

end Request

end Governance
