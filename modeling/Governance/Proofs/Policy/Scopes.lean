import Governance.Policy.Service
import Mathlib.Data.List.Forall2

/-!
The scope that a merged limit comes from. Limits are merged scope after scope, the broadest first
(`MergedFrom`), and every setting is taken over from the closest scope that has it. The number of
retries and the timeout have two places in a scope, the failover policy and the retry policy; the
closest scope counts whichever of the two it uses.
-/

set_option autoImplicit false

namespace Governance.Limits

variable {β : Type}

-- The places in which a scope may limit the retries, the one that counts first in front.
def retrySettings (l : Limits) : List (Option UInt32) :=
  [l.failover.bind (·.retry), l.retry.bind (·.retry)]

def timeoutSettings (l : Limits) : List (Option UInt64) :=
  [l.failover.bind (·.timeout), l.retry.bind (·.timeout)]

def intervalSetting (l : Limits) : Option UInt64 := l.retry.bind (·.interval)

def firstSet (settings : List (Option β)) : Option β := settings.findSome? id

theorem firstSet_cons (setting : Option β) (settings : List (Option β)) :
    firstSet (setting :: settings) = setting.or (firstSet settings) := by
  cases setting <;> rfl

theorem firstSet_pair (first second : Option β) : firstSet [first, second] = first.or second := by
  rw [firstSet_cons, firstSet_cons, firstSet, List.findSome?_nil, Option.or_none]

theorem firstSet_append (closer broader : List (Option β)) :
    firstSet (closer ++ broader) = (firstSet closer).or (firstSet broader) := by
  rw [firstSet, List.findSome?_append]
  rfl

theorem firstSet_eq_none_iff (settings : List (Option β)) :
    firstSet settings = none ↔ ∀ setting ∈ settings, setting = none := by
  simp [firstSet]

theorem firstSet_map_firstSet (places : Limits → List (Option β)) (scopes : List Limits) :
    firstSet (scopes.map (fun scope => firstSet (places scope))) =
      firstSet (scopes.flatMap places) := by
  induction scopes with
  | nil => rfl
  | cons scope broader ih =>
    rw [List.map_cons, firstSet_cons, ih, List.flatMap_cons, firstSet_append]

theorem firstSet_flatMap_or {places : Limits → List (Option β)} {place : Limits → Option β}
    (among : ∀ l, place l ∈ places l) (scopes : List Limits) :
    (firstSet (scopes.flatMap places)).or (firstSet (scopes.map place)) =
      firstSet (scopes.flatMap places) := by
  cases found : firstSet (scopes.flatMap places) with
  | some value => rfl
  | none =>
    rw [firstSet_eq_none_iff] at found
    rw [Option.none_or, firstSet_eq_none_iff]
    intro setting mem
    obtain ⟨scope, inScopes, rfl⟩ := List.mem_map.1 mem
    exact found _ (List.mem_flatMap.2 ⟨scope, inScopes, among scope⟩)

-- Limits that come of scopes, from the closest to the broadest one: each scope is folded, filled
-- from what the broader ones came to, and given its numbers.
inductive MergedFrom : List Limits → Limits → Prop where
  | broadest (l : Limits) : MergedFrom [l] l.fold
  | closer (l : Limits) (owner : PolicyId) {scopes : List Limits} {source : Limits} :
      MergedFrom scopes source → MergedFrom (l :: scopes) ((l.fold.inherit source).identify owner)

structure Inherited (setting : Limits → Option β) : Prop where
  fills : ∀ target source, setting (target.inherit source) = (setting target).or (setting source)
  kept : ∀ owner l, setting (identify owner l) = setting l

theorem MergedFrom.setting_eq {setting : Limits → Option β} (inherited : Inherited setting)
    {scopes : List Limits} {l : Limits} (merged : MergedFrom scopes l) :
    setting l = firstSet (scopes.map (fun scope => setting scope.fold)) := by
  induction merged with
  | broadest l => simp [firstSet]
  | closer l owner broader ih =>
    rw [inherited.kept, inherited.fills, ih, List.map_cons, firstSet_cons]

theorem bind_inheritOption {α : Type} {inherit : α → α → α} {field : α → Option β}
    (fills : ∀ target source, field (inherit target source) = (field target).or (field source))
    (target source : Option α) :
    (inheritOption inherit target source).bind field =
      (target.bind field).or (source.bind field) := by
  cases target with
  | none => simp [inheritOption]
  | some t =>
    cases source with
    | none => simp [inheritOption]
    | some s => simp [inheritOption, fills]

theorem failover_inherited (field : FailoverPolicy → Option β)
    (fills : ∀ target source, field (target.inherit source) = (field target).or (field source))
    (kept : ∀ p id, field { p with id := id } = field p) :
    Inherited (fun l => l.failover.bind field) where
  fills target source := bind_inheritOption fills target.failover source.failover
  kept owner l := by cases failover : l.failover <;> simp [identify, failover, kept]

theorem retry_inherited (field : RetryPolicy → Option β)
    (fills : ∀ target source, field (target.inherit source) = (field target).or (field source))
    (kept : ∀ p id, field { p with id := id } = field p) :
    Inherited (fun l => l.retry.bind field) where
  fills target source := bind_inheritOption fills target.retry source.retry
  kept owner l := by cases retry : l.retry <;> simp [identify, retry, kept]

theorem breaker_inherited (field : BreakerPolicy → Option β)
    (fills : ∀ target source, field (target.inherit source) = (field target).or (field source))
    (kept : ∀ p id, field { p with id := id } = field p) :
    Inherited (fun l => l.breaker.bind field) where
  fills target source := bind_inheritOption fills target.breaker source.breaker
  kept owner l := by cases breaker : l.breaker <;> simp [identify, breaker, kept]

theorem fold_setting (field : FailoverPolicy → Option β) (same : RetryPolicy → Option β)
    (blank : field .blank = none)
    (takes : ∀ (f : FailoverPolicy) (r : RetryPolicy),
      field { f with retry := f.retry.or r.retry, timeout := f.timeout.or r.timeout } =
        (field f).or (same r))
    (unset : ∀ r : RetryPolicy, r.retry = none → r.timeout = none → same r = none) (l : Limits) :
    l.fold.failover.bind field = firstSet [l.failover.bind field, l.retry.bind same] := by
  rw [firstSet_pair]
  simp only [fold, foldFailover]
  cases l.retry with
  | none => simp
  | some r =>
    dsimp only [Option.bind_some]
    split
    · rename_i nothing
      simp only [Bool.and_eq_true, Option.isNone_iff_eq_none] at nothing
      rw [unset r nothing.1 nothing.2, Option.or_none]
    · rw [Option.bind_some, takes]
      cases l.failover with
      | none => rw [Option.getD_none, blank]; rfl
      | some f => rfl

theorem fold_retries (l : Limits) :
    l.fold.failover.bind (·.retry) = firstSet l.retrySettings :=
  fold_setting (·.retry) (·.retry) rfl (fun _ _ => rfl) (fun _ none _ => none) l

theorem fold_timeout (l : Limits) :
    l.fold.failover.bind (·.timeout) = firstSet l.timeoutSettings :=
  fold_setting (·.timeout) (·.timeout) rfl (fun _ _ => rfl) (fun _ _ none => none) l

-- Every setting is that of the closest scope that has it, in the order of the scopes and, for the
-- retries and the timeout, of the places in a scope.
structure ClosestWins (scopes : List Limits) (merged : Limits) : Prop where
  maxRetries : merged.maxRetries = (firstSet (scopes.flatMap retrySettings)).getD 0
  timeout : merged.timeout? = firstSet (scopes.flatMap timeoutSettings)
  interval : merged.intervalSetting = firstSet (scopes.map intervalSetting)
  pause : merged.pause = .ofMillis ((firstSet (scopes.map intervalSetting)).getD 0).toNat
  statusCodes : merged.retry.bind (·.statusCodes) =
    firstSet (scopes.map (·.retry.bind (·.statusCodes)))
  exceptions : merged.retry.bind (·.exceptions) =
    firstSet (scopes.map (·.retry.bind (·.exceptions)))
  failureThreshold : merged.breaker.bind (·.failureThreshold) =
    firstSet (scopes.map (·.breaker.bind (·.failureThreshold)))
  recoveryTimeout : merged.breaker.bind (·.recoveryTimeout) =
    firstSet (scopes.map (·.breaker.bind (·.recoveryTimeout)))
  halfOpenMaxCalls : merged.breaker.bind (·.halfOpenMaxCalls) =
    firstSet (scopes.map (·.breaker.bind (·.halfOpenMaxCalls)))

theorem pause_eq (l : Limits) :
    l.pause = .ofMillis (l.intervalSetting.getD 0).toNat := by
  unfold pause intervalSetting
  cases l.retry <;> rfl

namespace MergedFrom

variable {scopes : List Limits} {l : Limits}

theorem retry_eq (merged : MergedFrom scopes l) (field : RetryPolicy → Option β)
    (fills : ∀ target source, field (target.inherit source) = (field target).or (field source))
    (kept : ∀ p id, field { p with id := id } = field p) :
    l.retry.bind field = firstSet (scopes.map (·.retry.bind field)) :=
  merged.setting_eq (retry_inherited field fills kept)

theorem breaker_eq (merged : MergedFrom scopes l) (field : BreakerPolicy → Option β)
    (fills : ∀ target source, field (target.inherit source) = (field target).or (field source))
    (kept : ∀ p id, field { p with id := id } = field p) :
    l.breaker.bind field = firstSet (scopes.map (·.breaker.bind field)) :=
  merged.setting_eq (breaker_inherited field fills kept)

theorem failover_retry_eq (merged : MergedFrom scopes l) :
    l.failover.bind (·.retry) = firstSet (scopes.flatMap retrySettings) := by
  rw [merged.setting_eq (failover_inherited (·.retry) (fun _ _ => rfl) (fun _ _ => rfl))]
  simp only [fold_retries]
  exact firstSet_map_firstSet retrySettings scopes

theorem failover_timeout_eq (merged : MergedFrom scopes l) :
    l.failover.bind (·.timeout) = firstSet (scopes.flatMap timeoutSettings) := by
  rw [merged.setting_eq (failover_inherited (·.timeout) (fun _ _ => rfl) (fun _ _ => rfl))]
  simp only [fold_timeout]
  exact firstSet_map_firstSet timeoutSettings scopes

theorem intervalSetting_eq (merged : MergedFrom scopes l) :
    l.intervalSetting = firstSet (scopes.map intervalSetting) :=
  merged.retry_eq (·.interval) (fun _ _ => rfl) (fun _ _ => rfl)

theorem closestWins (merged : MergedFrom scopes l) : ClosestWins scopes l where
  maxRetries := by
    have among (l : Limits) : l.retry.bind (·.retry) ∈ l.retrySettings := by simp [retrySettings]
    rw [maxRetries, merged.failover_retry_eq,
      merged.retry_eq (·.retry) (fun _ _ => rfl) (fun _ _ => rfl), firstSet_flatMap_or among]
  timeout := by
    have among (l : Limits) : l.retry.bind (·.timeout) ∈ l.timeoutSettings := by
      simp [timeoutSettings]
    rw [timeout?, merged.failover_timeout_eq,
      merged.retry_eq (·.timeout) (fun _ _ => rfl) (fun _ _ => rfl), firstSet_flatMap_or among]
  interval := merged.intervalSetting_eq
  pause := by rw [pause_eq, merged.intervalSetting_eq]
  statusCodes := merged.retry_eq (·.statusCodes) (fun _ _ => rfl) (fun _ _ => rfl)
  exceptions := merged.retry_eq (·.exceptions) (fun _ _ => rfl) (fun _ _ => rfl)
  failureThreshold := merged.breaker_eq (·.failureThreshold) (fun _ _ => rfl) (fun _ _ => rfl)
  recoveryTimeout := merged.breaker_eq (·.recoveryTimeout) (fun _ _ => rfl) (fun _ _ => rfl)
  halfOpenMaxCalls := merged.breaker_eq (·.halfOpenMaxCalls) (fun _ _ => rfl) (fun _ _ => rfl)

end MergedFrom

end Governance.Limits

namespace Governance.ServicePolicy

open Governance.Limits

theorem mergedLimits_mergedFrom (s : ServicePolicy) (defaults : PolicyDefaults) :
    MergedFrom [s.limits, defaults] (s.mergedLimits defaults) :=
  .closer s.limits s.mergedId (.broadest defaults)

theorem mergeMethod_mergedFrom (s : ServicePolicy) (serviceId : PolicyId) (m : MethodPolicy)
    {scopes : List Limits} {limits : Limits} (merged : MergedFrom scopes limits) :
    MergedFrom (m.limits :: scopes) (s.mergeMethod serviceId limits m).limits :=
  .closer m.limits _ merged

theorem merge_closestWins (s : ServicePolicy) (defaults : PolicyDefaults) :
    List.Forall₂ (fun declared merged =>
        merged.name = declared.name ∧ merged.conditions = declared.conditions ∧
          ClosestWins [declared.limits, s.limits, defaults] merged.limits)
      s.methods (s.merge defaults).methods ∧
    ClosestWins [s.limits, defaults] (s.merge defaults).scope.limits := by
  have broader := mergedLimits_mergedFrom s defaults
  refine ⟨?_, broader.closestWins⟩
  rw [merge, List.forall₂_map_right_iff, List.forall₂_same]
  exact fun m _ => ⟨rfl, rfl, (mergeMethod_mergedFrom s s.mergedId m broader).closestWins⟩

end Governance.ServicePolicy
