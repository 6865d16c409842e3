import Governance.Policy.Identity
import Governance.Policy.Limits
import Governance.Tag

set_option autoImplicit false

namespace Governance

structure Limits where
  failover : Option FailoverPolicy
  retry : Option RetryPolicy
  breaker : Option BreakerPolicy
  deriving DecidableEq

namespace Limits

def unset : Limits := ⟨none, none, none⟩

-- A retry limit or timeout may be declared with the retry policy. The failover policy of the same
-- scope takes it over, so that it counts before anything a broader scope declares.
def foldFailover (failover : Option FailoverPolicy) (retry : Option RetryPolicy) :
    Option FailoverPolicy :=
  match retry with
  | none => failover
  | some r =>
    if r.retry.isNone && r.timeout.isNone then failover
    else
      let f := failover.getD .blank
      some { f with retry := f.retry.or r.retry, timeout := f.timeout.or r.timeout }

def fold (l : Limits) : Limits := { l with failover := foldFailover l.failover l.retry }

def inherit (target source : Limits) : Limits where
  failover := inheritOption FailoverPolicy.inherit target.failover source.failover
  retry := inheritOption RetryPolicy.inherit target.retry source.retry
  breaker := inheritOption BreakerPolicy.inherit target.breaker source.breaker

def identify (owner : PolicyId) (l : Limits) : Limits where
  failover := l.failover.map
    (fun p => { p with id := p.id.or (some (owner.partId "#failover")) })
  retry := l.retry.map
    (fun p => { p with id := p.id.or (some (owner.partId "#retry")) })
  breaker := l.breaker.map
    (fun p => { p with id := p.id.or (some (owner.partId "#circuitBreaker")) })

def maxRetries (l : Limits) : UInt32 :=
  ((l.failover.bind (·.retry)).or (l.retry.bind (·.retry))).getD 0

def timeout? (l : Limits) : Option UInt64 :=
  (l.failover.bind (·.timeout)).or (l.retry.bind (·.timeout))

def pause (l : Limits) : Duration :=
  match l.retry with
  | some r => r.pause
  | none => .zero

end Limits

abbrev PolicyDefaults := Limits

structure MethodPolicy where
  name : String
  id : PolicyId
  conditions : List Tag.Condition
  limits : Limits
  deriving DecidableEq

namespace MethodPolicy

def wildcardName : String := "*"

def new (name : String) : MethodPolicy := ⟨name, .new, [], .unset⟩

def isWildcard (m : MethodPolicy) : Bool := m.name == wildcardName

def holds (m : MethodPolicy) (request : Request) (tags : Tag.Registry) : Bool :=
  m.conditions.all (fun c => c.holds request tags)

end MethodPolicy

structure ServicePolicy where
  name : String
  group : Option String
  id : PolicyId
  limits : Limits
  methods : List MethodPolicy
  deriving DecidableEq

namespace ServicePolicy

def new (name : String) : ServicePolicy := ⟨name, none, .new, .unset, []⟩

def key (s : ServicePolicy) : String := serviceUri s.name s.group

def methodUri (s : ServicePolicy) (method : String) : String :=
  Governance.methodUri s.name s.group method

def nameTag : String := "service.name"

def groupTag : String := "service.group"

def methodTag : String := "service.method"

def derivedTags (s : ServicePolicy) : Table String :=
  let named := Table.empty.insert nameTag s.name
  match ownGroup? s.group with
  | some g => named.insert groupTag g
  | none => named

def mergedId (s : ServicePolicy) : PolicyId :=
  s.id.supplement s.key (some (s.derivedTags.insertAll s.id.tagTable.entries))

def mergedLimits (s : ServicePolicy) (defaults : PolicyDefaults) : Limits :=
  (s.limits.fold.inherit defaults.fold).identify s.mergedId

def mergeMethod (s : ServicePolicy) (serviceId : PolicyId) (limits : Limits) (m : MethodPolicy) :
    MethodPolicy :=
  let tags := (serviceId.tagsWith [(methodTag, m.name)]).insertAll m.id.tagTable.entries
  let id := m.id.supplement (s.methodUri m.name) (some tags)
  { m with id := id, limits := (m.limits.fold.inherit limits).identify id }

def merge (s : ServicePolicy) (defaults : PolicyDefaults) : ServicePolicy :=
  { s with
    id := s.mergedId
    limits := s.mergedLimits defaults
    methods := s.methods.map (s.mergeMethod s.mergedId (s.mergedLimits defaults)) }

def scope (s : ServicePolicy) : MethodPolicy :=
  ⟨MethodPolicy.wildcardName, s.id, [], s.limits⟩

end ServicePolicy

end Governance
