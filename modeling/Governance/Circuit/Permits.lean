import Governance.Circuit.Registry

set_option autoImplicit false

namespace Governance.Circuit

abbrev Permits := Table Permit

namespace Permits

def giveBack (held : Permits) (name : String) (r : Registry) (outcome : Breaker.Outcome)
    (now : Millis) : Option (Permits × Registry × List Log.Entry) :=
  (held.get? name).map (fun p =>
    let settled := r.settle p outcome now
    (held.erase name, settled.1, settled.2))

def hold (held : Permits) (name : String) (p : Permit) (r : Registry) (now : Millis) :
    Permits × Registry :=
  let dropped := match held.get? name with
    | some earlier => (r.settle earlier .dropped now).1
    | none => r
  (held.insert name p, dropped)

end Permits

end Governance.Circuit
