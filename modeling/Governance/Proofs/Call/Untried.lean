import Mathlib.Data.Finset.Card
import Governance.Proofs.Call.Budget
import Governance.Proofs.Call.Visits

set_option autoImplicit false

namespace Governance.Call

variable {σ α : Type}

open Governance.Call.Flow Governance.Circuit

def KeepsRoundRobin (s later : Session σ) : Prop :=
  s.balancer.IsRoundRobin → later.balancer.IsRoundRobin

namespace Round

def available (c : Call σ α) (r : Round σ) : List Endpoint :=
  match (c.route.run r.found).value with
  | .ok pool => c.available (c.route.run r.found).session pool
  | .error _ => []

def elected? (c : Call σ α) (r : Round σ) : Option Endpoint :=
  match (r.election c).value with
  | .ok elected => some elected.endpoint
  | .error _ => none

end Round

def usedIn (c : Call σ α) (rounds : List (Round σ)) : List String :=
  rounds.filterMap (fun r => (r.elected? c).map Endpoint.address)

structure PrefersUntried (c : Call σ α) (used : List String) (r : Round σ) : Prop where
  elects_iff : (∃ e, r.elected? c = some e) ↔ r.available c ≠ []
  -- One of those that the routes kept of the pool, whose breaker, if there is one, lets calls pass.
  sound : ∀ e, r.elected? c = some e → ∃ pool,
    (c.route.run r.found).value = .ok pool ∧ e ∈ c.kept pool ∧
      ∀ reg p b, (c.route.run r.found).session.breakers = some reg → c.limits.breaker = some p →
        reg.find? (Registry.endpointKey c.request.service e.address) = some b →
          b.isAvailable (c.route.run r.found).session.clock = true
  untried : ∀ e, r.elected? c = some e → e.address ∈ used →
    ∀ other ∈ r.available c, other.address ∈ used

def Attempt.IsAt (address : String) : Attempt α → Prop
  | .failed _ _ own => address = own
  | _ => True

section Rounds

variable {c : Call σ α} {b : Budget} {r : Round σ} {e : Endpoint}

theorem judge_isAt (number : UInt32) (permit : Option Permit) (response : Response α) :
    Returns (Attempt.IsAt e.address) (c.judge number e permit response) := by
  refine returns_imp (judge_returns c number e permit response) ?_
  rintro _ rfl
  rfl

theorem invoke_isAt (number : UInt32) (permit : Option Permit) :
    Returns (Attempt.IsAt e.address) (c.invoke number e permit) := by
  unfold Call.invoke
  apply returns_rest
  intro _
  apply returns_rest
  intro _
  apply returns_rest
  intro answer
  cases answer with
  | none => exact returns_rest (fun _ => returns_pure trivial)
  | some response =>
    dsimp only
    split
    · apply returns_rest
      intro _
      apply returns_rest
      intro _
      exact returns_rest (fun _ => returns_pure trivial)
    · exact judge_isAt number permit response

namespace Round

theorem elected?_eq_some_iff :
    r.elected? c = some e ↔
      ∃ elected, (r.election c).value = .ok elected ∧ elected.endpoint = e := by
  unfold elected?
  cases (r.election c).value <;> simp

theorem elected?_of_failed {response : Response α} {retryable : Bool} {address : String}
    (failed : (r.outcome c).value = .failed response retryable address) :
    ∃ e, r.elected? c = some e ∧ e.address = address := by
  cases chosen : (r.election c).value with
  | error error =>
    rw [outcome_of_unelected chosen] at failed
    cases failed
  | ok elected =>
    refine ⟨elected.endpoint, elected?_eq_some_iff.2 ⟨elected, chosen, rfl⟩, ?_⟩
    have isAt : (r.outcome c).value.IsAt elected.endpoint.address := by
      rw [outcome, attempt, run_bind, ← earlier, ← election, chosen]
      dsimp only
      refine returns_rest (P := Attempt.IsAt _) (fun _ => returns_rest (fun admission => ?_)) _
      cases admission with
      | ok permit => exact invoke_isAt r.counter permit
      | error refusal => exact judge_isAt r.counter none _
    rw [failed] at isAt
    exact isAt

theorem mem_remember {address a : String} {tried : List String} :
    a ∈ remember address tried ↔ a ∈ tried ∨ a = address := by
  unfold remember
  split
  · rename_i contained
    have mem : address ∈ tried := by simpa using contained
    exact ⟨.inl, fun either => either.elim id (fun same => same ▸ mem)⟩
  · simp

theorem mem_next_tried (more : r.GoesOn c b) (a : String) :
    a ∈ (r.next c b).tried ↔ a ∈ r.tried ∨ a ∈ usedIn c [r] := by
  obtain ⟨response, address, failed, -⟩ := (r.goesOn_iff c b).1 more
  obtain ⟨e, elected, rfl⟩ := elected?_of_failed failed
  have remembered : (r.next c b).tried = remember e.address r.tried := by
    simp [next, address?, failed]
  rw [remembered, mem_remember]
  simp [usedIn, elected]

end Round

theorem Course.mem_tried_iff {last : Option (Response α)} {rounds : List (Round σ)}
    {o : Outcome σ (Option (Response α))} (course : Course c b last r rounds o) (k : Nat)
    (reached : Round σ) (made : rounds[k]? = some reached) (a : String) :
    a ∈ reached.tried ↔ a ∈ r.tried ∨ a ∈ usedIn c (rounds.take k) := by
  refine course.at_each (P := fun k one =>
    a ∈ one.tried ↔ a ∈ r.tried ∨ a ∈ usedIn c (rounds.take k)) ?_ ?_ k reached made
  · simp [usedIn]
  · intro k one here more tried
    have used : usedIn c (rounds.take (k + 1)) = usedIn c (rounds.take k) ++ usedIn c [one] := by
      simp [usedIn, List.take_add_one, here]
    rw [Round.mem_next_tried more, tried, used, List.mem_append, or_assoc]

theorem Round.mem_available_of_listed {pool : List Endpoint}
    (listed : (c.route.run r.found).value = .ok pool) :
    r.available c = c.available (c.route.run r.found).session pool := by
  rw [available, listed]

theorem Round.prefersUntried (builtIn : Advice.IsBuiltIn c.advice)
    (turns : (c.route.run r.found).session.balancer.IsRoundRobin) {used : List String}
    (tried : ∀ a, a ∈ r.tried ↔ a ∈ used) : PrefersUntried c used r := by
  have candidate (e : Endpoint) (elected : r.elected? c = some e) : ∃ pool,
      (c.route.run r.found).value = .ok pool ∧ e ∈ preferUntried r.tried (r.available c) := by
    obtain ⟨elected, chosen, rfl⟩ := elected?_eq_some_iff.1 elected
    obtain ⟨pool, candidates, how⟩ := elect_of_ok chosen
    obtain ⟨-, rfl⟩ := candidates_eq_ok_iff.1 how.given
    have picked := how.picked
    rw [pick_value] at picked
    rw [mem_available_of_listed how.listed]
    exact ⟨pool, how.listed, Picker.mem_of_elect turns.faithful builtIn picked⟩
  refine ⟨⟨?_, ?_⟩, ?_, ?_⟩
  · rintro ⟨e, elected⟩ none
    obtain ⟨pool, listed, mem⟩ := candidate e elected
    exact List.ne_nil_of_mem (preferUntried_subset _ _ mem) none
  · intro some
    unfold available at some
    split at some
    · rename_i pool listed
      have given : c.candidates (c.route.run r.found).session r.tried pool = .ok _ :=
        candidates_eq_ok_iff.2 ⟨some, rfl⟩
      obtain ⟨e, picked⟩ := Picker.elect_of_isRoundRobin (p := ⟨_, c.invoker.mode⟩) (r := c.request)
        turns builtIn (preferUntried_ne_nil some r.tried)
      rw [← pick_value] at picked
      obtain ⟨elected, chosen⟩ := elect_of_picked listed given picked
      exact ⟨_, elected?_eq_some_iff.2 ⟨elected, chosen, rfl⟩⟩
    · exact absurd rfl some
  · intro e elected
    obtain ⟨pool, listed, mem⟩ := candidate e elected
    have left := preferUntried_subset _ _ mem
    rw [mem_available_of_listed listed] at left
    obtain ⟨kept, passes⟩ := mem_available_iff.1 left
    refine ⟨pool, listed, kept, fun reg p b held policy found => ?_⟩
    simpa [isOpen, held, policy, found] using passes
  · intro e elected again other left
    obtain ⟨pool, listed, mem⟩ := candidate e elected
    rw [← tried] at again ⊢
    exact tried_of_mem_preferUntried e mem again other left

end Rounds

section Runs

variable {c : Call σ α} {rounds : List (Round σ)}

theorem usedIn_length_le (rounds : List (Round σ)) : (usedIn c rounds).length ≤ rounds.length :=
  List.length_filterMap_le _ _

theorem differ_of_unchanging {addresses : Finset String}
    (prefers : ∀ k r, rounds[k]? = some r → PrefersUntried c (usedIn c (rounds.take k)) r)
    (unchanging : ∀ r ∈ rounds.take addresses.card,
      ∀ a, a ∈ (r.available c).map Endpoint.address ↔ a ∈ addresses)
    (k : Nat) (within : k ≤ addresses.card) :
    (∀ r ∈ rounds.take k, ∃ e, r.elected? c = some e) ∧ (usedIn c (rounds.take k)).Nodup := by
  induction k with
  | zero => simp [usedIn]
  | succ k previous =>
    obtain ⟨elect, differ⟩ := previous (Nat.le_of_succ_le within)
    cases made : rounds[k]? with
    | none =>
      rw [List.take_add_one, made]
      simpa using ⟨elect, differ⟩
    | some r =>
      have mem : r ∈ rounds.take addresses.card :=
        List.mem_of_getElem? ((List.getElem?_take_of_lt within).trans made)
      have few : (usedIn c (rounds.take k)).toFinset.card < addresses.card := by
        have distinct := (usedIn c (rounds.take k)).toFinset_card_le
        have length := usedIn_length_le (c := c) (rounds.take k)
        rw [List.length_take] at length
        omega
      obtain ⟨a, left, unused⟩ := Finset.exists_mem_notMem_of_card_lt_card few
      obtain ⟨other, available, rfl⟩ := List.mem_map.1 ((unchanging r mem a).2 left)
      have step := prefers k r made
      obtain ⟨e, elected⟩ := step.elects_iff.2 (List.ne_nil_of_mem available)
      have fresh : e.address ∉ usedIn c (rounds.take k) := fun again =>
        unused (List.mem_toFinset.2 (step.untried e elected again other available))
      have used : usedIn c (rounds.take (k + 1)) = usedIn c (rounds.take k) ++ [e.address] := by
        simp [usedIn, List.take_add_one, made, elected]
      refine ⟨?_, ?_⟩
      · rw [List.take_add_one, made, Option.toList_some, List.forall_mem_append]
        exact ⟨elect, by simp [elected]⟩
      · rw [used, List.nodup_append_comm, List.singleton_append, List.nodup_cons]
        exact ⟨fresh, differ⟩

end Runs

section Twins

def twin (host : String) : Endpoint := ⟨host, 1, .healthy, .empty⟩

-- Two addresses, one of them listed twice; whoever is called fails, and there are retries.
def twinsCall : Call Unit String where
  invoker := ⟨.nowhere, .standard, .degrade, fun _ s => s, fun _ s => (s, [])⟩
  adapter :=
    { route := fun _ s => (.ok [twin "h", twin "g", twin "h"], s)
      invoke := fun _ _ s => (some (.failure (.new "down")), s)
      isRetryable := fun _ _ => true }
  request := .plain "svc" none
  limits := ⟨some { FailoverPolicy.blank with retry := some 3 }, none, none⟩
  advice := none

def beforeTwins : Session Unit := ⟨0, .roundRobin (-7), none, ()⟩

theorem twinsCall_keeps : Whole KeepsRoundRobin twinsCall where
  refl _ turns := turns
  trans first second turns := second (first turns)
  route _ turns := turns
  onSuccess _ _ turns := turns
  onFailure _ _ _ turns := turns
  sleep _ _ turns := turns
  deliver _ _ turns := turns
  balance _ _ _ turns := Picker.elect_isRoundRobin turns
  invokes _ _ turns := turns
  breakers _ _ turns := turns

end Twins

end Governance.Call
