set_option autoImplicit false

namespace Governance

structure Location where
  region : Option String
  zone : Option String
  liveSpaceId : Option UInt64
  unit : Option String
  cell : Option String
  laneSpaceId : Option UInt64
  lane : Option String
  cluster : Option String
  host : Option String
  ip : Option String
  deriving DecidableEq

namespace Location

def nowhere : Location := ⟨none, none, none, none, none, none, none, none, none, none⟩

def isLive (l : Location) : Bool := l.liveSpaceId.isSome && l.unit.isSome

end Location

end Governance
