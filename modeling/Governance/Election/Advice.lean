import Governance.Endpoint
import Governance.Error
import Governance.Request

set_option autoImplicit false

namespace Governance

-- Told how often it was asked before in the same call, and whom it may choose among.
abbrev Advice := Nat → List Endpoint → Except AdviceError (Option Endpoint)

namespace Advice

def sticky (key : String) : Advice := fun _ candidates =>
  .ok (candidates.find? (fun e => e.id == key || e.address == key))

def lane (lane : String) : Advice := fun _ candidates =>
  .ok (candidates.find? (fun e => e.lane? == some lane))

def failing (message : String) : Advice := fun _ _ => .error ⟨message⟩

def atIndex (index : Nat) : Advice := fun _ candidates => .ok candidates[index]?

def always (e : Endpoint) : Advice := fun _ _ => .ok (some e)

def ofRequest? (r : Request) : Option Advice := r.stickyKey?.map sticky

end Advice

end Governance
