import Governance.Feed.Record
import Governance.Location

set_option autoImplicit false

namespace Governance.Feed

def locationLayout : List String :=
  ["region", "zone", "liveSpaceId", "unit", "cell", "laneSpaceId", "lane", "cluster", "host", "ip"]

def location : Codec Location where
  encode l := .object
    [("region", Codec.text.nullable.encode l.region), ("zone", Codec.text.nullable.encode l.zone),
      ("liveSpaceId", Codec.uint64.nullable.encode l.liveSpaceId),
      ("unit", Codec.text.nullable.encode l.unit), ("cell", Codec.text.nullable.encode l.cell),
      ("laneSpaceId", Codec.uint64.nullable.encode l.laneSpaceId),
      ("lane", Codec.text.nullable.encode l.lane),
      ("cluster", Codec.text.nullable.encode l.cluster),
      ("host", Codec.text.nullable.encode l.host), ("ip", Codec.text.nullable.encode l.ip)]
  decode j := do
    let r ← Record.closed? locationLayout j
    let region ← r.optional "region" Codec.text
    let zone ← r.optional "zone" Codec.text
    let liveSpaceId ← r.optional "liveSpaceId" Codec.uint64
    let unit ← r.optional "unit" Codec.text
    let cell ← r.optional "cell" Codec.text
    let laneSpaceId ← r.optional "laneSpaceId" Codec.uint64
    let lane ← r.optional "lane" Codec.text
    let cluster ← r.optional "cluster" Codec.text
    let host ← r.optional "host" Codec.text
    let ip ← r.optional "ip" Codec.text
    return ⟨region, zone, liveSpaceId, unit, cell, laneSpaceId, lane, cluster, host, ip⟩

end Governance.Feed
