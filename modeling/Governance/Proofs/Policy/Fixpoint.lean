import Governance.Proofs.Feed.RoundTrip
import Governance.Proofs.Policy.History
import Governance.Proofs.Policy.Scopes

set_option autoImplicit false

namespace Governance.Limits

-- Where the retry policy limits the retries or sets a timeout, the failover policy does so too.
structure Folded (l : Limits) : Prop where
  retries : (l.failover.bind (·.retry)).or (l.retry.bind (·.retry)) = l.failover.bind (·.retry)
  timeout : (l.failover.bind (·.timeout)).or (l.retry.bind (·.timeout)) =
    l.failover.bind (·.timeout)

theorem fold_folded (l : Limits) : l.fold.Folded where
  retries := by
    rw [fold_retries, retrySettings, firstSet_pair, Option.or_assoc]
    exact congrArg _ (Option.or_self ..)
  timeout := by
    rw [fold_timeout, timeoutSettings, firstSet_pair, Option.or_assoc]
    exact congrArg _ (Option.or_self ..)

theorem fold_eq_self {l : Limits} (folded : l.Folded) : l.fold = l := by
  obtain ⟨failover, retry, breaker⟩ := l
  obtain ⟨retries, timeout⟩ := folded
  cases retry with
  | none => rfl
  | some r =>
    simp only [fold, foldFailover]
    split
    · rfl
    · cases failover with
      | none => simp_all
      | some f => simp_all

theorem or_absorbs {β : Type} {a b c d : Option β} (closer : a.or b = a) (broader : c.or d = c) :
    (a.or c).or (b.or d) = a.or c := by
  cases a with
  | some value => rfl
  | none => simp_all

theorem inherit_folded {target source : Limits} (closer : target.Folded)
    (broader : source.Folded) : (target.inherit source).Folded where
  retries := by
    simp only [inherit]
    rw [bind_inheritOption (fun _ _ => rfl), bind_inheritOption (fun _ _ => rfl)]
    exact or_absorbs closer.retries broader.retries
  timeout := by
    simp only [inherit]
    rw [bind_inheritOption (fun _ _ => rfl), bind_inheritOption (fun _ _ => rfl)]
    exact or_absorbs closer.timeout broader.timeout

theorem identify_folded {l : Limits} (folded : l.Folded) (owner : PolicyId) :
    (l.identify owner).Folded := by
  obtain ⟨failover, retry, breaker⟩ := l
  obtain ⟨retries, timeout⟩ := folded
  constructor
  · cases failover <;> cases retry <;> simp_all [identify]
  · cases failover <;> cases retry <;> simp_all [identify]

theorem MergedFrom.folded {scopes : List Limits} {l : Limits} (merged : MergedFrom scopes l) :
    l.Folded := by
  induction merged with
  | broadest l => exact fold_folded l
  | closer l owner _ ih => exact identify_folded (inherit_folded (fold_folded l) ih) owner

theorem identify_identify (l : Limits) (owner other : PolicyId) :
    (l.identify owner).identify other = l.identify owner := by
  obtain ⟨failover, retry, breaker⟩ := l
  simp [identify, Function.comp_def]

-- A part that was taken over or filled, and then named, has nothing left to be filled.
theorem inheritOption_again {α : Type} {inherit : α → α → α} {named : α → α}
    (filled : ∀ target source,
      inherit (named (inherit target source)) source = named (inherit target source))
    (taken : ∀ source, inherit (named source) source = named source) (target source : Option α) :
    inheritOption inherit ((inheritOption inherit target source).map named) source =
      (inheritOption inherit target source).map named := by
  cases target <;> cases source <;> simp [inheritOption, filled, taken]

theorem inherit_again (target source : Limits) (owner : PolicyId) :
    ((target.inherit source).identify owner).inherit source =
      (target.inherit source).identify owner := by
  simp only [inherit, identify]
  rw [inheritOption_again, inheritOption_again, inheritOption_again]
  all_goals
    intros
    simp [FailoverPolicy.inherit, RetryPolicy.inherit, BreakerPolicy.inherit, Option.or_assoc]

theorem merged_again (target : Limits) {source : Limits} (folded : source.Folded)
    (owner other : PolicyId) :
    (((target.fold.inherit source).identify owner).fold.inherit source).identify other =
      (target.fold.inherit source).identify owner := by
  have merged := identify_folded (inherit_folded (fold_folded target) folded) owner
  rw [fold_eq_self merged, inherit_again, identify_identify]

end Governance.Limits

namespace Governance

theorem Table.insertAll_again {α : Type} (t u : Table α) :
    t.insertAll (t.insertAll u.entries).entries = t.insertAll u.entries :=
  Table.ext fun name => by simp only [get?_insertAll, Option.or_assoc, Option.or_self]

structure PolicyId.Regains (kept : PolicyId → PolicyId) (p : PolicyId) : Prop where
  tags : ∀ uri tags, (kept (p.supplement uri tags)).tags = tags
  all : ∀ uri tags, (kept (p.supplement uri tags)).supplement uri tags = p.supplement uri tags

theorem PolicyId.regains_id (p : PolicyId) : p.Regains (fun p => p) where
  tags _ _ := rfl
  all uri tags := by simp [supplement]

-- An address that was declared would be lost: the scope gives the canonical one.
theorem PolicyId.regains_unaddressed {p : PolicyId} (noUri : p.unaddressed = p) :
    p.Regains unaddressed where
  tags _ _ := rfl
  all uri tags := by
    rw [← noUri]
    simp [supplement, unaddressed]

theorem PolicyId.Regains.again {kept : PolicyId → PolicyId} {p : PolicyId}
    (regains : p.Regains kept) (uri : String) (own : Table String) :
    let merged := p.supplement uri (some (own.insertAll p.tagTable.entries))
    (kept merged).supplement uri (some (own.insertAll (kept merged).tagTable.entries)) =
      merged := by
  intro merged
  have tags : (kept merged).tagTable = own.insertAll p.tagTable.entries := by
    rw [tagTable, regains.tags, Option.getD_some]
  rw [tags, Table.insertAll_again]
  exact regains.all uri _

namespace ServicePolicy

def mapIds (f : PolicyId → PolicyId) (s : ServicePolicy) : ServicePolicy :=
  { s with id := f s.id, methods := s.methods.map (fun m => { m with id := f m.id }) }

theorem mapIds_id (s : ServicePolicy) : s.mapIds (fun p => p) = s := by
  simp [mapIds]

theorem mapIds_unaddressed (s : ServicePolicy) : s.mapIds .unaddressed = s.unaddressed := rfl

variable {kept : PolicyId → PolicyId} (s : ServicePolicy) (defaults : PolicyDefaults)

theorem mergedId_again (regains : s.id.Regains kept) :
    ((s.merge defaults).mapIds kept).mergedId = s.mergedId :=
  regains.again s.key s.derivedTags

theorem mergeMethod_again (serviceId : PolicyId) {limits : Limits} (folded : limits.Folded)
    (m : MethodPolicy) (regains : m.id.Regains kept) :
    let merged := s.mergeMethod serviceId limits m
    s.mergeMethod serviceId limits { merged with id := kept merged.id } = merged := by
  intro merged
  have sameId := regains.again (s.methodUri m.name) (serviceId.tagsWith [(methodTag, m.name)])
  have sameLimits (owner : PolicyId) := Limits.merged_again m.limits folded merged.id owner
  exact congrArg₂ (MethodPolicy.mk m.name · m.conditions ·) sameId (sameLimits _)

theorem merge_mapIds (own : s.id.Regains kept) (methods : ∀ m ∈ s.methods, m.id.Regains kept) :
    ((s.merge defaults).mapIds kept).merge defaults = s.merge defaults := by
  have sameId := mergedId_again s defaults own
  have sameLimits : ((s.merge defaults).mapIds kept).mergedLimits defaults =
      s.mergedLimits defaults :=
    Limits.merged_again s.limits (Limits.fold_folded defaults) _ _
  have folded := (mergedLimits_mergedFrom s defaults).folded
  have sameMethods : ((s.merge defaults).mapIds kept).methods.map
      (s.mergeMethod s.mergedId (s.mergedLimits defaults)) = (s.merge defaults).methods := by
    simp only [merge, mapIds, List.map_map]
    exact List.map_congr_left fun m mem =>
      mergeMethod_again s s.mergedId folded m (methods m mem)
  rw [merge, sameId, sameLimits]
  exact congrArg _ sameMethods

theorem merge_merge : (s.merge defaults).merge defaults = s.merge defaults := by
  have again := merge_mapIds s defaults s.id.regains_id (fun m _ => m.id.regains_id)
  rwa [mapIds_id] at again

theorem merge_unaddressed {s : ServicePolicy} (noUri : s.unaddressed = s) :
    (s.merge defaults).unaddressed.merge defaults = s.merge defaults := by
  have own : s.id.unaddressed = s.id := congrArg ServicePolicy.id noUri
  have methods : ∀ m ∈ s.methods, m.unaddressed = m :=
    List.map_eq_map_iff.1 ((congrArg ServicePolicy.methods noUri).trans (List.map_id' _).symm)
  rw [← mapIds_unaddressed]
  exact merge_mapIds s defaults (PolicyId.regains_unaddressed own) fun m mem =>
    PolicyId.regains_unaddressed (congrArg MethodPolicy.id (methods m mem))

end ServicePolicy

namespace PolicyRegistry

structure AnswersLike (r other : PolicyRegistry) : Prop where
  get : ∀ service group, r.get? service group = other.get? service group
  resolve : ∀ request tags, r.resolve request tags = other.resolve request tags

theorem AnswersLike.trans {r other third : PolicyRegistry} (first : r.AnswersLike other)
    (second : other.AnswersLike third) : r.AnswersLike third where
  get service group := (first.get service group).trans (second.get service group)
  resolve request tags := (first.resolve request tags).trans (second.resolve request tags)

theorem answersLike_of_services {r other : PolicyRegistry} (same : r.services = other.services) :
    r.AnswersLike other where
  get service group := by rw [get?, get?, same]
  resolve request tags := by rw [resolve, resolve, same]

theorem key_of_lastDeclared {changes : List Change} {key : String} {declared : ServicePolicy}
    (last : lastDeclared changes key = some declared) : declared.key = key := by
  induction changes using List.reverseRecOn with
  | nil => cases last
  | append_singleton changes change ih =>
    rw [lastDeclared_concat] at last
    cases change with
    | publish later =>
      by_cases here : later.key = key
      · simp only [Change.declared?, here, if_pos, Option.getD_some, Option.some.injEq] at last
        rw [← last, here]
      · simp only [Change.declared?, here, if_false, Option.getD_none] at last
        exact ih last
    | setDefaults defaults => exact ih last
    | remove service group =>
      by_cases here : serviceUri service group = key
      · simp [Change.declared?, here] at last
      · simp only [Change.declared?, here, if_false, Option.getD_none] at last
        exact ih last

theorem ofDeclared_eq {defaults : PolicyDefaults} {left right : ServicePolicy}
    (same : left.merge defaults = right.merge defaults) :
    PublishedService.ofDeclared defaults left = .ofDeclared defaults right := by
  rw [PublishedService.ofDeclared, PublishedService.ofDeclared, same]

theorem publish_like {r : PolicyRegistry} {left right : ServicePolicy} (key : left.key = right.key)
    (same : left.merge r.defaults = right.merge r.defaults) :
    (r.publish left).AnswersLike (r.publish right) :=
  answersLike_of_services (by rw [publish, publish, key, ofDeclared_eq same])

theorem publish_last {initial : PolicyDefaults} {changes : List Change} {declared : ServicePolicy}
    (last : lastDeclared changes declared.key = some declared) :
    ((after initial changes).publish declared).AnswersLike (after initial changes) := by
  refine answersLike_of_services (Table.ext fun key => ?_)
  rw [publish, Table.get?_insert]
  split
  · rename_i here
    rw [here, after_services, last, after_defaults, Option.map_some]
  · rfl

/-- Merging is a fixpoint: a merged policy merges to itself under the same defaults. So a policy
that is found in a registry, written, read back and published under the same defaults again is
found, and resolved, as if nothing had happened. -/
theorem merge_fixpoint :
    (∀ (declared : ServicePolicy) (defaults : PolicyDefaults),
      (declared.merge defaults).merge defaults = declared.merge defaults) ∧
    ∀ (initial : PolicyDefaults) (changes : List Change) (service : String)
      (group : Option String) (declared : ServicePolicy),
      lastDeclared changes (serviceUri service group) = some declared →
      declared.unaddressed = declared →
      ∃ found read, (after initial changes).get? service group = some found ∧
        Feed.service.decode (Feed.service.encode found) = some read ∧
        ((after initial changes).publish read).AnswersLike (after initial changes) ∧
        ∀ other : PolicyRegistry, other.defaults = (after initial changes).defaults →
          (other.publish read).AnswersLike (other.publish declared) := by
  refine ⟨fun declared defaults => declared.merge_merge defaults, ?_⟩
  intro initial changes service group declared last noUri
  have merged := ServicePolicy.merge_unaddressed (after initial changes).defaults noUri
  have like (other : PolicyRegistry) (same : other.defaults = (after initial changes).defaults) :
      (other.publish (declared.merge (after initial changes).defaults).unaddressed).AnswersLike
        (other.publish declared) :=
    publish_like rfl (by rw [same, merged])
  have key := key_of_lastDeclared last
  refine ⟨declared.merge (after initial changes).defaults, _, ?_, Feed.service_readsBack _, ?_,
    like⟩
  · rw [get?_after, last, after_defaults, Option.map_some]
  · rw [← key] at last
    exact (like _ rfl).trans (publish_last last)

-- A retry limit from the defaults counts for the service, whose own policy says only how long to
-- wait; its method's rule sets a limit of its own.
def orderDefaults : PolicyDefaults := ⟨none, some { RetryPolicy.blank with retry := some 2 }, none⟩

def order : ServicePolicy :=
  { ServicePolicy.new "order" with
    limits := ⟨none, some { RetryPolicy.blank with interval := some 50 }, none⟩
    methods := [{ MethodPolicy.new "place" with
      limits := ⟨some { FailoverPolicy.blank with timeout := some 800 }, none, none⟩ }] }

theorem order_fixpoint :
    lastDeclared [.publish order] (serviceUri "order" none) = some order ∧
    order.unaddressed = order ∧
    ∃ found read, (after orderDefaults [.publish order]).get? "order" none = some found ∧
      Feed.service.decode (Feed.service.encode found) = some read ∧
      ((after orderDefaults [.publish order]).publish read).AnswersLike
        (after orderDefaults [.publish order]) ∧
      ∀ other : PolicyRegistry, other.defaults = (after orderDefaults [.publish order]).defaults →
        (other.publish read).AnswersLike (other.publish order) :=
  ⟨rfl, rfl, merge_fixpoint.2 orderDefaults [.publish order] "order" none order rfl rfl⟩

end PolicyRegistry

end Governance
