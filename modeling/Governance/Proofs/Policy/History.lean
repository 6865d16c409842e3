import Governance.Policy.Registry
import Governance.Proofs.Table
import Mathlib.Data.List.Induction

set_option autoImplicit false

namespace Governance.PolicyRegistry

inductive Change where
  | publish (declared : ServicePolicy)
  | setDefaults (defaults : PolicyDefaults)
  | remove (service : String) (group : Option String)

namespace Change

def defaults? : Change → Option PolicyDefaults
  | .setDefaults defaults => some defaults
  | .publish _ | .remove _ _ => none

def declared? (key : String) : Change → Option (Option ServicePolicy)
  | .publish declared => if declared.key = key then some (some declared) else none
  | .remove service group => if serviceUri service group = key then some none else none
  | .setDefaults _ => none

end Change

def apply (r : PolicyRegistry) : Change → PolicyRegistry
  | .publish declared => r.publish declared
  | .setDefaults defaults => r.setDefaults defaults
  | .remove service group => r.remove service group

def after (initial : PolicyDefaults) (changes : List Change) : PolicyRegistry :=
  changes.foldl apply (withDefaults initial)

def lastDefaults (initial : PolicyDefaults) (changes : List Change) : PolicyDefaults :=
  (changes.filterMap Change.defaults?).getLast?.getD initial

def lastDeclared (changes : List Change) (key : String) : Option ServicePolicy :=
  (changes.filterMap (Change.declared? key)).getLast?.join

def InStep (r : PolicyRegistry) : Prop := r.services = r.declared.map (.ofDeclared r.defaults)

theorem publish_inStep {r : PolicyRegistry} (inStep : r.InStep) (declared : ServicePolicy) :
    (r.publish declared).InStep := by
  refine Table.ext fun key => ?_
  simp only [publish, Table.get?_insert, Table.get?_map, show r.services = _ from inStep]
  split <;> rfl

theorem remove_inStep {r : PolicyRegistry} (inStep : r.InStep) (service : String)
    (group : Option String) : (r.remove service group).InStep := by
  refine Table.ext fun key => ?_
  simp only [remove, Table.get?_erase, Table.get?_map, show r.services = _ from inStep]
  split <;> rfl

theorem apply_inStep {r : PolicyRegistry} (inStep : r.InStep) (change : Change) :
    (r.apply change).InStep := by
  cases change with
  | publish declared => exact publish_inStep inStep declared
  | setDefaults defaults => rfl
  | remove service group => exact remove_inStep inStep service group

theorem after_concat (initial : PolicyDefaults) (changes : List Change) (change : Change) :
    after initial (changes ++ [change]) = (after initial changes).apply change := by
  simp [after]

theorem lastDefaults_concat (initial : PolicyDefaults) (changes : List Change) (change : Change) :
    lastDefaults initial (changes ++ [change]) =
      change.defaults?.getD (lastDefaults initial changes) := by
  cases told : change.defaults? <;> simp [lastDefaults, List.filterMap_append, told]

theorem lastDeclared_concat (changes : List Change) (change : Change) (key : String) :
    lastDeclared (changes ++ [change]) key =
      (change.declared? key).getD (lastDeclared changes key) := by
  cases told : change.declared? key <;> simp [lastDeclared, List.filterMap_append, told]

theorem apply_defaults (r : PolicyRegistry) (change : Change) :
    (r.apply change).defaults = change.defaults?.getD r.defaults := by
  cases change <;> rfl

theorem apply_declared (r : PolicyRegistry) (change : Change) (key : String) :
    (r.apply change).declared.get? key = (change.declared? key).getD (r.declared.get? key) := by
  cases change with
  | publish declared =>
    simp only [apply, publish, Table.get?_insert, Change.declared?, eq_comm (a := key)]
    split <;> rfl
  | setDefaults defaults => rfl
  | remove service group =>
    simp only [apply, remove, Table.get?_erase, Change.declared?, eq_comm (a := key)]
    split <;> rfl

theorem after_inStep (initial : PolicyDefaults) (changes : List Change) :
    (after initial changes).InStep := by
  induction changes using List.reverseRecOn with
  | nil => rfl
  | append_singleton changes change ih =>
    rw [after_concat]
    exact apply_inStep ih change

theorem after_defaults (initial : PolicyDefaults) (changes : List Change) :
    (after initial changes).defaults = lastDefaults initial changes := by
  induction changes using List.reverseRecOn with
  | nil => rfl
  | append_singleton changes change ih =>
    rw [after_concat, apply_defaults, lastDefaults_concat, ih]

theorem after_declared (initial : PolicyDefaults) (changes : List Change) (key : String) :
    (after initial changes).declared.get? key = lastDeclared changes key := by
  induction changes using List.reverseRecOn with
  | nil => rfl
  | append_singleton changes change ih =>
    rw [after_concat, apply_declared, lastDeclared_concat, ih]

theorem after_services (initial : PolicyDefaults) (changes : List Change) (key : String) :
    (after initial changes).services.get? key =
      (lastDeclared changes key).map (.ofDeclared (lastDefaults initial changes)) := by
  rw [after_inStep initial changes, Table.get?_map, after_declared, after_defaults]

def IsFirst (meets : MethodPolicy → Prop) (rules : List MethodPolicy) (rule : MethodPolicy) :
    Prop :=
  ∃ before later, rules = before ++ rule :: later ∧ meets rule ∧ ∀ earlier ∈ before, ¬ meets earlier

theorem find?_eq_some_iff_isFirst {meets : MethodPolicy → Prop} {test : MethodPolicy → Bool}
    (tests : ∀ rule, test rule = true ↔ meets rule) (rules : List MethodPolicy)
    (rule : MethodPolicy) : rules.find? test = some rule ↔ IsFirst meets rules rule := by
  simp only [List.find?_eq_some_iff_append, IsFirst, ← tests, Bool.not_eq_true, Bool.not_eq_true']
  constructor
  · rintro ⟨holds, before, later, parts, fail⟩
    exact ⟨before, later, parts, holds, fail⟩
  · rintro ⟨before, later, parts, holds, fail⟩
    exact ⟨holds, before, later, parts, fail⟩

theorem find?_eq_none_iff_none {meets : MethodPolicy → Prop} {test : MethodPolicy → Bool}
    (tests : ∀ rule, test rule = true ↔ meets rule) (rules : List MethodPolicy) :
    rules.find? test = none ↔ ∀ rule ∈ rules, ¬ meets rule := by
  simp only [List.find?_eq_none, tests]

section Select

variable (request : Request) (tags : Tag.Registry)

def IsOwn (rule : MethodPolicy) : Prop :=
  request.method = some rule.name ∧ rule.name ≠ "*" ∧ ∀ c ∈ rule.conditions, c.holds request tags

def IsGeneral (rule : MethodPolicy) : Prop :=
  rule.name = "*" ∧ ∀ c ∈ rule.conditions, c.holds request tags

inductive Governs (policy : ServicePolicy) : MethodPolicy → Prop where
  | own {rule : MethodPolicy} :
      IsFirst (IsOwn request tags) policy.methods rule → Governs policy rule
  | general {rule : MethodPolicy} : (∀ other ∈ policy.methods, ¬ IsOwn request tags other) →
      IsFirst (IsGeneral request tags) policy.methods rule → Governs policy rule
  | scope : (∀ other ∈ policy.methods, ¬ IsOwn request tags other) →
      (∀ other ∈ policy.methods, ¬ IsGeneral request tags other) →
      Governs policy ⟨"*", policy.id, [], policy.limits⟩

theorem isOwn_iff (rule : MethodPolicy) :
    (!rule.isWildcard && request.method == some rule.name && rule.holds request tags) = true ↔
      IsOwn request tags rule := by
  simp only [MethodPolicy.isWildcard, MethodPolicy.wildcardName, MethodPolicy.holds, IsOwn,
    Bool.and_eq_true, Bool.not_eq_true', beq_eq_false_iff_ne, beq_iff_eq, List.all_eq_true]
  tauto

theorem isGeneral_iff (rule : MethodPolicy) :
    (rule.isWildcard && rule.holds request tags) = true ↔ IsGeneral request tags rule := by
  simp [MethodPolicy.isWildcard, MethodPolicy.wildcardName, MethodPolicy.holds, IsGeneral]

theorem select_eq_iff_governs (defaults : PolicyDefaults) (declared : ServicePolicy)
    (rule : MethodPolicy) :
    (PublishedService.ofDeclared defaults declared).select request tags = rule ↔
      Governs request tags (declared.merge defaults) rule := by
  have own := find?_eq_some_iff_isFirst (isOwn_iff request tags) (declared.merge defaults).methods
  have noOwn := find?_eq_none_iff_none (isOwn_iff request tags) (declared.merge defaults).methods
  have general :=
    find?_eq_some_iff_isFirst (isGeneral_iff request tags) (declared.merge defaults).methods
  have noGeneral :=
    find?_eq_none_iff_none (isGeneral_iff request tags) (declared.merge defaults).methods
  simp only [PublishedService.select, PublishedService.ofDeclared]
  generalize (declared.merge defaults) = policy at *
  constructor
  · rintro rfl
    cases foundOwn : policy.methods.find? (fun m =>
        !m.isWildcard && request.method == some m.name && m.holds request tags) with
    | some rule => exact .own ((own rule).1 foundOwn)
    | none =>
      cases foundGeneral : policy.methods.find? (fun m => m.isWildcard && m.holds request tags) with
      | some rule => exact .general (noOwn.1 foundOwn) ((general rule).1 foundGeneral)
      | none => exact .scope (noOwn.1 foundOwn) (noGeneral.1 foundGeneral)
  · intro governs
    cases governs with
    | own first => rw [(own rule).2 first]; rfl
    | general none first => rw [noOwn.2 none, (general rule).2 first]; rfl
    | scope none noneGeneral => rw [noOwn.2 none, noGeneral.2 noneGeneral]; rfl

end Select

structure Answers (r : PolicyRegistry) (defaults : PolicyDefaults)
    (declared : String → Option ServicePolicy) : Prop where
  defaults_eq : r.defaults = defaults
  get : ∀ service group,
    r.get? service group = (declared (serviceUri service group)).map (·.merge defaults)
  published : ∀ policy, r.published policy = policy.merge defaults
  found : ∀ policy, (r.publish policy).get? policy.name policy.group = some (r.published policy)
  removed : ∀ service group,
    r.removed service group = (declared (serviceUri service group)).map (·.merge defaults)
  size : {key | declared key ≠ none}.encard = r.size
  refuses : ∀ request tags e, r.resolve request tags = .error e ↔
    declared (serviceUri request.service request.group) = none ∧
      e = .policyNotFound (serviceUri request.service request.group)
  resolves : ∀ request tags rule, r.resolve request tags = .ok rule ↔
    ∃ policy, declared (serviceUri request.service request.group) = some policy ∧
      Governs request tags (policy.merge defaults) rule

theorem get?_after (initial : PolicyDefaults) (changes : List Change) (service : String)
    (group : Option String) :
    (after initial changes).get? service group =
      (lastDeclared changes (serviceUri service group)).map
        (·.merge (lastDefaults initial changes)) := by
  rw [get?, after_services, Option.map_map]
  rfl

theorem get?_publish (r : PolicyRegistry) (policy : ServicePolicy) :
    (r.publish policy).get? policy.name policy.group = some (policy.merge r.defaults) := by
  simp [publish, get?, ServicePolicy.key, Table.get?_insert, PublishedService.ofDeclared]

theorem published_eq (r : PolicyRegistry) (policy : ServicePolicy) :
    r.published policy = policy.merge r.defaults := by
  rw [published, get?_publish, Option.getD_some]

theorem size_after (initial : PolicyDefaults) (changes : List Change) :
    {key | lastDeclared changes key ≠ none}.encard = (after initial changes).size := by
  have same : {key | lastDeclared changes key ≠ none} =
      {key | (after initial changes).services.get? key ≠ none} := by
    ext key
    change lastDeclared changes key ≠ none ↔ (after initial changes).services.get? key ≠ none
    rw [after_services, ne_eq, ne_eq, Option.map_eq_none_iff]
  rw [same, Table.encard_names, size]

theorem resolve_eq_error_iff (r : PolicyRegistry) (request : Request) (tags : Tag.Registry)
    (e : GovernanceError) : r.resolve request tags = .error e ↔
      r.services.get? (serviceUri request.service request.group) = none ∧
        e = .policyNotFound (serviceUri request.service request.group) := by
  simp only [resolve]
  cases r.services.get? (serviceUri request.service request.group) <;> simp [eq_comm]

theorem resolve_eq_ok_iff (r : PolicyRegistry) (request : Request) (tags : Tag.Registry)
    (rule : MethodPolicy) : r.resolve request tags = .ok rule ↔
      ∃ p, r.services.get? (serviceUri request.service request.group) = some p ∧
        p.select request tags = rule := by
  simp only [resolve]
  cases r.services.get? (serviceUri request.service request.group) <;> simp

theorem answers_after (initial : PolicyDefaults) (changes : List Change) :
    (after initial changes).Answers (lastDefaults initial changes) (lastDeclared changes) where
  defaults_eq := after_defaults initial changes
  get := get?_after initial changes
  published policy := by rw [published_eq, after_defaults]
  found policy := by rw [get?_publish, published_eq]
  removed := get?_after initial changes
  size := size_after initial changes
  refuses request tags e := by
    rw [resolve_eq_error_iff, after_services, Option.map_eq_none_iff]
  resolves request tags rule := by
    rw [resolve_eq_ok_iff, after_services]
    simp only [Option.map_eq_some_iff, exists_exists_and_eq_and, select_eq_iff_governs]

def Change.setsDefaults (change : Change) : Bool := change.defaults?.isSome

theorem lastDefaults_eq_filter (initial : PolicyDefaults) (changes : List Change) :
    lastDefaults initial changes = lastDefaults initial (changes.filter Change.setsDefaults) := by
  have same : (fun change : Change => if change.setsDefaults then change.defaults? else none) =
      Change.defaults? := by
    funext change
    cases change <;> rfl
  rw [lastDefaults, lastDefaults, List.filterMap_filter, same]

theorem lastDeclared_eq_filter (changes : List Change) :
    lastDeclared changes = lastDeclared (changes.filter (!·.setsDefaults)) := by
  funext key
  have same : (fun change : Change =>
      if !change.setsDefaults then change.declared? key else none) = Change.declared? key := by
    funext change
    cases change <;> rfl
  rw [lastDeclared, lastDeclared, List.filterMap_filter, same]

theorem after_eq_of_same {initial : PolicyDefaults} {left right : List Change}
    (defaults : lastDefaults initial left = lastDefaults initial right)
    (declared : lastDeclared left = lastDeclared right) :
    after initial left = after initial right := by
  have sameDefaults := (after_defaults initial left).trans
    (defaults.trans (after_defaults initial right).symm)
  have sameDeclared : (after initial left).declared = (after initial right).declared :=
    Table.ext fun key => by rw [after_declared, after_declared, declared]
  have sameServices : (after initial left).services = (after initial right).services := by
    rw [after_inStep initial left, after_inStep initial right, sameDefaults, sameDeclared]
  generalize after initial left = l at *
  generalize after initial right = r at *
  cases l
  cases r
  simp_all

/-- After every history the registry answers as the history says, and so it makes no difference
how the changes of the defaults fall among the others. -/
theorem after_agrees (initial : PolicyDefaults) (changes : List Change) :
    (after initial changes).Answers (lastDefaults initial changes) (lastDeclared changes) ∧
      ∀ other : List Change,
        other.filter Change.setsDefaults = changes.filter Change.setsDefaults →
        other.filter (!·.setsDefaults) = changes.filter (!·.setsDefaults) →
        after initial other = after initial changes := by
  refine ⟨answers_after initial changes, fun other defaults others => after_eq_of_same ?_ ?_⟩
  · rw [lastDefaults_eq_filter, defaults, ← lastDefaults_eq_filter]
  · rw [lastDeclared_eq_filter, others, ← lastDeclared_eq_filter]

end Governance.PolicyRegistry
