import Governance.Endpoint
import Governance.Location
import Governance.Request

set_option autoImplicit false

namespace Governance.Routing

structure Context where
  location : Location
  request : Request

namespace Context

def unit? (c : Context) : Option String :=
  ((c.request.header? Request.unitHeader).filter (· != "")).or c.location.unit

def lane? (c : Context) : Option String :=
  ((c.request.header? Request.laneHeader).filter (· != "")).or c.location.lane

end Context

def prefer (keep : Endpoint → Bool) (endpoints : List Endpoint) : List Endpoint :=
  let matched := endpoints.filter keep
  if matched.isEmpty then endpoints else matched

def isBaseline (e : Endpoint) : Bool := e.lane?.all (· == "")

def healthy (endpoints : List Endpoint) : List Endpoint := endpoints.filter Endpoint.isAccessible

-- The local cell says nothing about endpoints of another unit.
def live (c : Context) (endpoints : List Endpoint) : List Endpoint :=
  match c.unit? with
  | none => endpoints
  | some unit =>
    let inUnit := prefer (fun e => e.unit? == some unit) endpoints
    match c.location.cell with
    | some cell =>
      if c.location.unit == some unit then prefer (fun e => e.cell? == some cell) inUnit else inUnit
    | none => inUnit

def lane (c : Context) (endpoints : List Endpoint) : List Endpoint :=
  let matched := match c.lane? with
    | some lane => endpoints.filter (fun e => e.lane? == some lane)
    | none => []
  if matched.isEmpty then prefer isBaseline endpoints else matched

def zone (c : Context) (endpoints : List Endpoint) : List Endpoint :=
  let inZone := match c.location.zone with
    | some zone => endpoints.filter (fun e => e.zone? == some zone)
    | none => []
  if inZone.isEmpty then
    match c.location.region with
    | some region => prefer (fun e => e.region? == some region) endpoints
    | none => endpoints
  else inZone

inductive Filter where
  | health
  | live
  | lane
  | zone
  | custom (keep : Context → List Endpoint → List Endpoint)

namespace Filter

def apply (c : Context) : Filter → List Endpoint → List Endpoint
  | .health => healthy
  | .live => Routing.live c
  | .lane => Routing.lane c
  | .zone => Routing.zone c
  | .custom keep => keep c

def IsBuiltIn : Filter → Prop
  | .custom _ => False
  | _ => True

end Filter

abbrev Chain := List Filter

namespace Chain

def standard : Chain := [.health, .live, .lane, .zone]

def apply (c : Context) (chain : Chain) (endpoints : List Endpoint) : List Endpoint :=
  chain.foldl (fun kept filter => filter.apply c kept) endpoints

end Chain

end Governance.Routing
