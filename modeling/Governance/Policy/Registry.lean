import Governance.Policy.Service

set_option autoImplicit false

namespace Governance

structure PublishedService where
  policy : ServicePolicy
  scope : MethodPolicy
  deriving DecidableEq

namespace PublishedService

def ofDeclared (defaults : PolicyDefaults) (declared : ServicePolicy) : PublishedService :=
  let policy := declared.merge defaults
  ⟨policy, policy.scope⟩

def select (p : PublishedService) (request : Request) (tags : Tag.Registry) : MethodPolicy :=
  let own := p.policy.methods.find? (fun m =>
    !m.isWildcard && request.method == some m.name && m.holds request tags)
  let any := p.policy.methods.find? (fun m => m.isWildcard && m.holds request tags)
  (own.or any).getD p.scope

end PublishedService

structure PolicyRegistry where
  defaults : PolicyDefaults
  declared : Table ServicePolicy
  services : Table PublishedService

namespace PolicyRegistry

def empty : PolicyRegistry := ⟨.unset, .empty, .empty⟩

def get? (r : PolicyRegistry) (service : String) (group : Option String) : Option ServicePolicy :=
  (r.services.get? (serviceUri service group)).map (·.policy)

def size (r : PolicyRegistry) : Nat := r.services.size

def publish (r : PolicyRegistry) (declared : ServicePolicy) : PolicyRegistry :=
  { r with
    declared := r.declared.insert declared.key declared
    services := r.services.insert declared.key (.ofDeclared r.defaults declared) }

def published (r : PolicyRegistry) (declared : ServicePolicy) : ServicePolicy :=
  ((r.publish declared).get? declared.name declared.group).getD (declared.merge .unset)

def publishLog (r : PolicyRegistry) (declared : ServicePolicy) : List Log.Entry :=
  [.event .info "lanegov::policy" "service policy published"
    [("uri", .text declared.key), ("replaced", .flag (r.services.contains declared.key))]]

def setDefaults (r : PolicyRegistry) (defaults : PolicyDefaults) : PolicyRegistry :=
  { r with defaults := defaults, services := r.declared.map (.ofDeclared defaults) }

def setDefaultsLog : List Log.Entry :=
  [.event .debug "lanegov::policy" "policy defaults replaced" []]

def withDefaults (defaults : PolicyDefaults) : PolicyRegistry := empty.setDefaults defaults

def remove (r : PolicyRegistry) (service : String) (group : Option String) : PolicyRegistry :=
  { r with
    declared := r.declared.erase (serviceUri service group)
    services := r.services.erase (serviceUri service group) }

def removed (r : PolicyRegistry) (service : String) (group : Option String) :
    Option ServicePolicy := r.get? service group

def resolve (r : PolicyRegistry) (request : Request) (tags : Tag.Registry) :
    Except GovernanceError MethodPolicy :=
  let key := serviceUri request.service request.group
  match r.services.get? key with
  | some published => .ok (published.select request tags)
  | none => .error (.policyNotFound key)

end PolicyRegistry

end Governance
