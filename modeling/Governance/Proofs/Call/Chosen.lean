import Governance.Proofs.Call.Undisturbed

set_option autoImplicit false

namespace Governance.Call

variable {σ α : Type}

open Governance.Call.Flow Governance.Circuit

structure Chosen (c : Call σ α) (s : Session σ) (earlier : Nat) (tried : List String)
    (elected : Elected) (pool candidates : List Endpoint) : Prop where
  listed : (c.route.run s).value = .ok pool
  given : c.candidates (c.route.run s).session tried pool = .ok candidates
  picked : ((c.pick earlier candidates).run (c.route.run s).session).value = .ok elected.endpoint
  breaker : ((c.breakerFor elected.endpoint pool).run
    ((c.pick earlier candidates).run (c.route.run s).session).session).value = elected.breaker
  left : ((c.breakerFor elected.endpoint pool).run
    ((c.pick earlier candidates).run (c.route.run s).session).session).session =
      ((c.elect earlier tried).run s).session

section Elections

variable {c : Call σ α} {s : Session σ} {earlier : Nat} {tried : List String} {elected : Elected}
  {e : Endpoint} {pool candidates : List Endpoint} {p : BreakerPolicy}

theorem elect_of_ok (elects : ((c.elect earlier tried).run s).value = .ok elected) :
    ∃ pool candidates, Chosen c s earlier tried elected pool candidates := by
  unfold elect at elects
  rw [run_bind_after] at elects
  cases listed : (c.route.run s).value with
  | error e =>
    rw [listed] at elects
    cases elects
  | ok pool =>
    rw [listed] at elects
    dsimp only [Outcome.after] at elects
    rw [run_session_bind] at elects
    cases given : c.candidates (c.route.run s).session tried pool with
    | error e =>
      rw [given] at elects
      cases elects
    | ok candidates =>
      rw [given] at elects
      dsimp only at elects
      rw [run_bind_after] at elects
      cases picked : ((c.pick earlier candidates).run (c.route.run s).session).value with
      | error e =>
        rw [picked] at elects
        cases elects
      | ok e =>
        rw [picked] at elects
        dsimp only [Outcome.after] at elects
        cases elects
        refine ⟨pool, candidates, listed, given, picked, rfl, ?_⟩
        unfold elect
        rw [run_bind_after, listed]
        dsimp only [Outcome.after]
        rw [run_session_bind, given]
        dsimp only
        rw [run_bind_after, picked]
        rfl

theorem elect_of_picked (listed : (c.route.run s).value = .ok pool)
    (given : c.candidates (c.route.run s).session tried pool = .ok candidates)
    (picked : ((c.pick earlier candidates).run (c.route.run s).session).value = .ok e) :
    ∃ elected, ((c.elect earlier tried).run s).value = .ok elected := by
  unfold elect
  rw [run_bind_after, listed]
  dsimp only [Outcome.after]
  rw [run_session_bind, given]
  dsimp only
  rw [run_bind_after, picked]
  exact ⟨_, rfl⟩

theorem Parts.elect_of_error {R : Session σ → Session σ → Prop} (parts : Parts R c)
    {error : GovernanceError} (unelected : ((c.elect earlier tried).run s).value = .error error) :
    R s ((c.elect earlier tried).run s).session := by
  have routed := parts.listing s
  unfold Call.elect at unelected ⊢
  rw [run_bind_after] at unelected ⊢
  generalize c.route.run s = route at routed unelected ⊢
  obtain ⟨e | pool, s₁, trace⟩ := route
  · exact routed
  · dsimp only [Outcome.after] at unelected ⊢
    rw [run_session_bind] at unelected ⊢
    cases given : c.candidates s₁ tried pool with
    | error e => exact routed
    | ok candidates =>
      have picked := parts.pick earlier candidates s₁
      rw [given] at unelected
      dsimp only at unelected ⊢
      rw [run_bind_after] at unelected ⊢
      generalize (c.pick earlier candidates).run s₁ = pick at picked unelected ⊢
      obtain ⟨e | e, s₂, trace⟩ := pick
      · exact parts.trans routed picked
      · cases unelected

theorem preferUntried_subset (tried : List String) (available : List Endpoint) :
    preferUntried tried available ⊆ available := by
  unfold preferUntried
  extract_lets fresh
  split
  · exact List.Subset.refl _
  · exact List.filter_sublist.subset

theorem preferUntried_singleton (tried : List String) (e : Endpoint) :
    preferUntried tried [e] = [e] := by
  simp [preferUntried]

theorem preferUntried_ne_nil {available : List Endpoint} (some : available ≠ [])
    (tried : List String) : preferUntried tried available ≠ [] := by
  unfold preferUntried
  extract_lets fresh
  split
  · exact some
  · simpa using ‹¬ fresh.isEmpty›

-- Somebody who was tried is preferred only when everybody was.
theorem tried_of_mem_preferUntried {available : List Endpoint} (e : Endpoint)
    (preferred : e ∈ preferUntried tried available) (again : e.address ∈ tried) :
    ∀ other ∈ available, other.address ∈ tried := by
  unfold preferUntried at preferred
  extract_lets fresh at preferred
  split at preferred
  · rename_i none
    simpa [fresh, List.filter_eq_nil_iff] using none
  · have untried : e.address ∉ tried := by simpa using (List.mem_filter.1 preferred).2
    exact absurd again untried

theorem candidates_eq_ok_iff :
    c.candidates s tried pool = .ok candidates ↔
      c.available s pool ≠ [] ∧ candidates = preferUntried tried (c.available s pool) := by
  unfold Call.candidates
  by_cases nobody : c.available s pool = []
  · simp only [nobody, List.isEmpty_nil, if_true]
    split <;> simp
  · have kept : c.kept pool ≠ [] := by
      intro none
      exact nobody (by rw [available, none, List.filter_nil])
    rw [if_neg (by simpa using kept), if_neg (by simpa using nobody), Except.ok.injEq]
    exact ⟨fun same => ⟨nobody, same.symm⟩, fun same => same.2.symm⟩

theorem mem_available_iff :
    e ∈ c.available s pool ↔
      e ∈ c.kept pool ∧ isOpen s c.request.service c.limits.breaker e = false := by
  simp [available]

theorem of_mem_candidates (narrows : ∀ filter ∈ c.invoker.routes, filter.Narrows)
    (given : c.candidates s tried pool = .ok candidates) (candidate : e ∈ candidates) :
    e ∈ pool ∧ isOpen s c.request.service c.limits.breaker e = false := by
  obtain ⟨-, rfl⟩ := candidates_eq_ok_iff.1 given
  obtain ⟨kept, passes⟩ := mem_available_iff.1 (preferUntried_subset _ _ candidate)
  exact ⟨Routing.Chain.apply_subset narrows _ _ kept, passes⟩

-- With at most built-in advice, whoever is elected is in the pool and its breaker was closed, or
-- due, when the candidates were chosen.
theorem Chosen.passes (chosen : Chosen c s earlier tried elected pool candidates)
    (narrows : ∀ filter ∈ c.invoker.routes, filter.Narrows) (builtIn : Advice.IsBuiltIn c.advice)
    (faithful : (c.route.run s).session.balancer.Faithful) :
    elected.endpoint ∈ pool ∧
      isOpen (c.route.run s).session c.request.service c.limits.breaker elected.endpoint =
        false := by
  have picked := chosen.picked
  rw [pick_value] at picked
  exact of_mem_candidates narrows chosen.given (Picker.mem_of_elect faithful builtIn picked)

theorem register_run (c : Call σ α) (pool : List Endpoint) (s : Session σ) {r grown : Registry}
    {h : Handle} {key : String} (obtained : r.obtain key p = .ok (h, grown)) :
    ((c.register r p key pool).run s).value = some h ∧
      ((c.register r p key pool).run s).session =
        { s with
          breakers := some (grown.prune c.request.service (pool.map Endpoint.address)) } := by
  unfold register
  rw [obtained]
  dsimp only
  rw [run_bind]
  split
  · exact ⟨rfl, rfl⟩
  · exact ⟨rfl, rfl⟩

theorem breakerFor_of_unbroken (unbroken : c.limits.breaker = none) (e : Endpoint)
    (pool : List Endpoint) (s : Session σ) :
    ((c.breakerFor e pool).run s).value = none ∧
      ((c.breakerFor e pool).run s).session = s := by
  unfold breakerFor
  rw [run_session_bind, unbroken]
  split
  · rename_i broken
    cases broken
  · exact ⟨rfl, rfl⟩

end Elections

end Governance.Call
