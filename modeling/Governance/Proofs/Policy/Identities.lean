import Governance.Proofs.Policy.Isolation
import Governance.Proofs.Table
import Mathlib.Data.List.Forall2

set_option autoImplicit false

namespace Governance

-- The canonical address of what has the path. The group belongs to it unless it is absent, empty or
-- the default one.
inductive Canonical (path : String) : Option String → String → Prop
  | ungrouped {group : Option String} (unnamed : group ∈ [none, some "", some "default"]) :
      Canonical path group ("service://" ++ path)
  | grouped {g : String} (named : g ≠ "") (other : g ≠ "default") :
      Canonical path (some g) ("service://" ++ path ++ "?group=" ++ g)

theorem canonical_inGroup (path : String) (group : Option String) :
    Canonical path group (inGroup ("service://" ++ path) group) := by
  cases own : ownGroup? group with
  | none =>
    rw [inGroup_of_none own]
    refine .ungrouped ?_
    cases group with
    | none => simp
    | some g => simpa [ownGroup?, or_iff_not_imp_left] using own
  | some g =>
    rw [inGroup_of_own own]
    obtain ⟨rfl, named⟩ := Option.filter_eq_some_iff.1 own
    rw [Bool.and_eq_true, bne_iff_ne, bne_iff_ne] at named
    exact .grouped named.1 named.2

@[ext]
structure PartIds where
  failover : Option (Option UInt64)
  retry : Option (Option UInt64)
  breaker : Option (Option UInt64)

-- The number of a part: the declared one, or one that is derived for the scope that declares the
-- part. Without a declaration it is that of the broader scope's part, and the derived one if that
-- has none.
def partNumber (derived : UInt64) : Option (Option UInt64) → Option (Option UInt64) → Option UInt64
  | some (some n), _ => some n
  | some none, _ => some derived
  | none, some (some n) => some n
  | none, some none => some derived
  | none, none => none

def PartIds.numbered (owner : String) (own broader : PartIds) : PartIds where
  failover := (partNumber (Checksum.ofText (owner ++ "#failover")) own.failover
    broader.failover).map some
  retry := (partNumber (Checksum.ofText (owner ++ "#retry")) own.retry broader.retry).map some
  breaker := (partNumber (Checksum.ofText (owner ++ "#circuitBreaker")) own.breaker
    broader.breaker).map some

namespace Limits

def ids (l : Limits) : PartIds where
  failover := l.failover.map (·.id)
  retry := l.retry.map (·.id)
  breaker := l.breaker.map (·.id)

-- What the scope itself declares: with a retry limit or a timeout in its retry policy, a failover
-- policy too.
def declaredIds (l : Limits) : PartIds where
  failover :=
    if l.failover.isNone ∧ l.retry.any (fun r => r.retry.isSome || r.timeout.isSome) then some none
    else l.failover.map (·.id)
  retry := l.retry.map (·.id)
  breaker := l.breaker.map (·.id)

theorem fold_ids (l : Limits) : l.fold.ids = l.declaredIds := by
  obtain ⟨failover, retry, breaker⟩ := l
  refine PartIds.ext ?_ rfl rfl
  simp only [ids, declaredIds, fold, foldFailover]
  cases retry with
  | none => simp
  | some r =>
    have unlimited : (r.retry.isNone && r.timeout.isNone) =
        !(r.retry.isSome || r.timeout.isSome) := by simp
    dsimp only
    rw [unlimited, Option.any_some]
    cases r.retry.isSome || r.timeout.isSome <;> cases failover <;> rfl

theorem partId_eq {owner : PolicyId} {uri : String} (addressed : owner.uri = some uri)
    {part : String} (named : part ≠ "") : owner.partId part = Checksum.ofText (uri ++ part) := by
  have nonempty : uri ++ part ≠ "" := fun none => named (String.append_eq_empty_iff.1 none).2
  rw [PolicyId.partId, addressed]
  dsimp only [Option.getD_some]
  rw [if_neg nonempty]

theorem map_id_inheritOption {α : Type} (inherit : α → α → α) (named : α → α)
    (number : α → Option UInt64) {derived : UInt64}
    (kept : ∀ target source, number (inherit target source) = number target)
    (numbers : ∀ p, number (named p) = some ((number p).getD derived)) (target source : Option α) :
    ((inheritOption inherit target source).map named).map number =
      (partNumber derived (target.map number) (source.map number)).map some := by
  cases target with
  | none =>
    cases source with
    | none => rfl
    | some s => cases own : number s <;> simp [inheritOption, partNumber, numbers, own]
  | some t =>
    cases source <;> cases own : number t <;> simp [inheritOption, partNumber, numbers, kept, own]

theorem ids_identify {owner : PolicyId} {uri : String} (addressed : owner.uri = some uri)
    (target source : Limits) :
    ((target.inherit source).identify owner).ids = target.ids.numbered uri source.ids := by
  have derived {part : String} (named : part ≠ "") (own : Option UInt64) :
      own.or (some (owner.partId part)) = some (own.getD (Checksum.ofText (uri ++ part))) := by
    rw [partId_eq addressed named]
    cases own <;> rfl
  exact PartIds.ext
    (map_id_inheritOption FailoverPolicy.inherit _ (·.id) (fun _ _ => rfl)
      (fun p => derived (by decide) p.id) target.failover source.failover)
    (map_id_inheritOption RetryPolicy.inherit _ (·.id) (fun _ _ => rfl)
      (fun p => derived (by decide) p.id) target.retry source.retry)
    (map_id_inheritOption BreakerPolicy.inherit _ (·.id) (fun _ _ => rfl)
      (fun p => derived (by decide) p.id) target.breaker source.breaker)

end Limits

theorem PolicyId.tag?_supplement (p : PolicyId) (uri : String) (derived : Table String)
    (key : String) :
    (p.supplement uri (some (derived.insertAll p.tagTable.entries))).tag? key =
      (p.tag? key).or (derived.get? key) := by
  rw [tag?, supplement_tags, Option.bind_some, Table.get?_insertAll, tagTable, tag?]
  cases p.tags with
  | none => rfl
  | some tags => rfl

-- A scope has its identity: the address that it declares, or the canonical one of its path; the
-- number that it declares, or the checksum of the address; the tags that it declares, and those
-- that are derived for it where it declares none. The parts of its limits are numbered by its
-- address.
structure IsIdentified (path : String) (group : Option String) (derivedTag : String → Option String)
    (broader : PartIds) (declaredId : PolicyId) (declared : Limits) (id : PolicyId)
    (limits : Limits) : Prop where
  address : ∃ canonical uri, Canonical path group canonical ∧
    uri = declaredId.uri.getD canonical ∧
    id.uri = some uri ∧
    id.id = some (declaredId.id.getD (Checksum.ofText uri)) ∧
    limits.ids = declared.declaredIds.numbered uri broader
  tagged : id.tags ≠ none
  tags : ∀ key, id.tag? key = (declaredId.tag? key).or (derivedTag key)

theorem isIdentified_of_supplement {path canonical : String} {group : Option String}
    (isCanonical : Canonical path group canonical) (declaredId : PolicyId) (declared : Limits)
    (source : Limits) (derived : Table String) :
    let id := declaredId.supplement canonical
      (some (derived.insertAll declaredId.tagTable.entries))
    IsIdentified path group derived.get? source.ids declaredId declared id
      ((declared.fold.inherit source).identify id) where
  address := by
    refine ⟨canonical, _, isCanonical, rfl, rfl, ?_, ?_⟩
    · rw [PolicyId.supplement]
      cases declaredId.id <;> rfl
    · rw [Limits.ids_identify rfl, Limits.fold_ids]
  tagged := nofun
  tags := declaredId.tag?_supplement canonical derived

namespace ServicePolicy

def ownTag (s : ServicePolicy) (key : String) : Option String :=
  if key = "service.name" then some s.name
  else if key = "service.group" then s.group.filter (fun g => g != "" && g != "default")
  else none

def methodTag? (merged : ServicePolicy) (name key : String) : Option String :=
  if key = "service.method" then some name else merged.id.tag? key

theorem get?_derivedTags (s : ServicePolicy) : s.derivedTags.get? = s.ownTag := by
  funext key
  have named : (Table.empty.insert nameTag s.name).get? key =
      if key = "service.name" then some s.name else none := Table.get?_insert _ _ _ _
  have other : ¬ groupTag = "service.name" := by decide
  rw [derivedTags, ownTag, ← ownGroup?]
  cases ownGroup? s.group with
  | none => simpa using named
  | some g =>
    rw [Table.get?_insert, named]
    by_cases group : key = groupTag
    · rw [if_pos group, group, if_neg other]
      rfl
    · have elsewhere : ¬ key = "service.group" := group
      rw [if_neg group, if_neg elsewhere]

theorem get?_tagsWith (serviceId : PolicyId) (name key : String) :
    (serviceId.tagsWith [(methodTag, name)]).get? key =
      if key = "service.method" then some name else serviceId.tag? key := by
  have tags : serviceId.tagTable.get? key = serviceId.tag? key := by
    rw [PolicyId.tagTable, PolicyId.tag?]
    cases serviceId.tags <;> rfl
  rw [← tags]
  exact Table.get?_insert _ _ _ _

theorem methodUri_eq (s : ServicePolicy) (method : String) :
    s.methodUri method = inGroup ("service://" ++ (s.name ++ "/" ++ method)) s.group := by
  rw [methodUri, Governance.methodUri, ← String.append_assoc, ← String.append_assoc]

theorem merge_identifies (s : ServicePolicy) (defaults : PolicyDefaults) :
    IsIdentified s.name s.group s.ownTag defaults.declaredIds s.id s.limits
      (s.merge defaults).id (s.merge defaults).limits ∧
    List.Forall₂ (fun declared merged => merged.name = declared.name ∧
        IsIdentified (s.name ++ "/" ++ declared.name) s.group
          ((s.merge defaults).methodTag? declared.name) (s.merge defaults).limits.ids
          declared.id declared.limits merged.id merged.limits)
      s.methods (s.merge defaults).methods := by
  constructor
  · rw [← get?_derivedTags, ← Limits.fold_ids]
    exact isIdentified_of_supplement (canonical_inGroup s.name s.group) s.id s.limits defaults.fold
      s.derivedTags
  · rw [merge, List.forall₂_map_right_iff, List.forall₂_same]
    intro m _
    refine ⟨rfl, ?_⟩
    have canonical := canonical_inGroup (s.name ++ "/" ++ m.name) s.group
    rw [← methodUri_eq] at canonical
    have tags : (s.mergedId.tagsWith [(methodTag, m.name)]).get? =
        (s.merge defaults).methodTag? m.name := funext (get?_tagsWith s.mergedId m.name)
    have identified := isIdentified_of_supplement canonical m.id m.limits (s.mergedLimits defaults)
      (s.mergedId.tagsWith [(methodTag, m.name)])
    rw [tags] at identified
    exact identified

-- The failover policy of the service is there only because its retry policy has a limit; one method
-- takes it over, the other one declares its own.
example :
    let s : ServicePolicy := { ServicePolicy.new "order" with
      limits := ⟨none, some { RetryPolicy.blank with retry := some 2 }, none⟩
      methods := [.new "place", { MethodPolicy.new "cancel" with
        limits := ⟨some .blank, none, none⟩ }] }
    ((s.merge .unset).limits :: (s.merge .unset).methods.map (·.limits)).map (·.ids.failover) =
      ["service://order#failover", "service://order#failover",
        "service://order/cancel#failover"].map (fun text => some (some (Checksum.ofText text))) := by
  decide +kernel

end ServicePolicy

end Governance
