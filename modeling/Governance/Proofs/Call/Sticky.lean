import Governance.Call.Governor
import Governance.Proofs.Call.Untried

set_option autoImplicit false

namespace Governance

namespace Advice

def isMeant (key : String) (e : Endpoint) : Bool := e.id == key || e.address == key

theorem sticky_eq (key : String) (earlier : Nat) (candidates : List Endpoint) :
    sticky key earlier candidates = .ok (candidates.find? (isMeant key)) := rfl

end Advice

namespace Picker

variable {p : Picker} {r : Request} {candidates : List Endpoint} {advice : Advice} {earlier : Nat}

theorem elect_of_named (some : candidates ≠ []) {e : Endpoint}
    (named : advice earlier candidates = .ok (.some e)) :
    p.elect r candidates (.some advice) earlier = ⟨.ok e, none, true, p.balancer⟩ := by
  rw [elect, if_neg (by simpa using some), named]

theorem elect_of_abstained (some : candidates ≠ []) (abstains : advice earlier candidates = .ok none) :
    p.elect r candidates (.some advice) earlier = p.choose r candidates true none := by
  rw [elect, if_neg (by simpa using some), abstains]

end Picker

namespace Call

open Governance.Call.Flow Governance.Circuit

variable {σ α : Type}

section Election

variable {c : Call σ α} {s : Session σ} {r : Round σ}

theorem pick_session (earlier : Nat) (candidates : List Endpoint) (s : Session σ)
    (undisputed : (Picker.elect ⟨s.balancer, c.invoker.mode⟩ c.request candidates c.advice
      earlier).adviceFailure = none) :
    ((c.pick earlier candidates).run s).session =
      { s with
        balancer := (Picker.elect ⟨s.balancer, c.invoker.mode⟩ c.request candidates c.advice
          earlier).balancer } := by
  unfold pick
  rw [run_session_bind]
  extract_lets picker verdict outcome report
  have same : verdict.adviceFailure = none := undisputed
  have quiet (u : Unit) (later : Session σ) : ((report u).run later).session = later := by
    simp only [report, same]
    rfl
  rw [run_bind]
  dsimp only
  split
  · exact quiet () _
  · exact quiet () _

theorem register_balancer (reg : Registry) (p : BreakerPolicy) (key : String)
    (pool : List Endpoint) (s : Session σ) :
    ((c.register reg p key pool).run s).session.balancer = s.balancer := by
  cases obtained : reg.obtain key p with
  | error e =>
    unfold register
    rw [obtained]
    rfl
  | ok grown =>
    rw [(register_run c pool s obtained).2]

theorem breakerFor_balancer (e : Endpoint) (pool : List Endpoint) (s : Session σ) :
    ((c.breakerFor e pool).run s).session.balancer = s.balancer := by
  unfold breakerFor
  rw [run_session_bind]
  split
  · extract_lets key
    split
    · rfl
    · exact register_balancer _ _ key pool s
  · rfl

namespace Round

theorem election_of_nobody (nobody : r.available c = []) :
    r.elected? c = none ∧
      (r.election c).session.balancer = (c.route.run r.found).session.balancer := by
  unfold elected? election elect
  rw [run_bind_after]
  cases listed : (c.route.run r.found).value with
  | error e => exact ⟨rfl, rfl⟩
  | ok pool =>
    rw [mem_available_of_listed listed] at nobody
    dsimp only [Outcome.after]
    rw [run_session_bind]
    cases given : c.candidates (c.route.run r.found).session r.tried pool with
    | error e => exact ⟨rfl, rfl⟩
    | ok candidates => exact absurd nobody (candidates_eq_ok_iff.1 given).1

theorem election_of_somebody (some : r.available c ≠ []) {v : Verdict}
    (elects : Picker.elect ⟨(c.route.run r.found).session.balancer, c.invoker.mode⟩ c.request
      (preferUntried r.tried (r.available c)) c.advice r.earlier = v)
    (undisputed : v.adviceFailure = none) :
    r.elected? c = v.outcome.toOption ∧ (r.election c).session.balancer = v.balancer := by
  cases listed : (c.route.run r.found).value with
  | error e => simp [available, listed] at some
  | ok pool =>
    rw [mem_available_of_listed listed] at some elects
    generalize preferred : preferUntried r.tried
      (c.available (c.route.run r.found).session pool) = candidates at elects
    have given : c.candidates (c.route.run r.found).session r.tried pool = .ok candidates :=
      candidates_eq_ok_iff.2 ⟨some, preferred.symm⟩
    have picked := pick_value c r.earlier candidates (c.route.run r.found).session
    have left := pick_session r.earlier candidates (c.route.run r.found).session
      (elects ▸ undisputed)
    rw [elects] at picked left
    unfold elected? election elect
    rw [run_bind_after, listed]
    dsimp only [Outcome.after]
    rw [run_session_bind, given]
    dsimp only
    rw [run_bind_after, picked]
    dsimp only [Outcome.after]
    cases v.outcome with
    | error e => exact ⟨rfl, congrArg Session.balancer left⟩
    | ok e =>
      have looked := breakerFor_balancer (c := c) e pool
        ((c.pick r.earlier candidates).run (c.route.run r.found).session).session
      exact ⟨rfl, looked.trans (congrArg Session.balancer left)⟩

end Round

end Election

-- What a call is made with leaves the count of the round robin alone: the pool is listed without
-- looking at the balancer and without touching it, and whatever else is done, a round robin stays
-- one.
structure LeavesBalancer (invoker : Invoker σ) (adapter : Adapter σ α) (request : Request) :
    Prop where
  route : ∀ s b, adapter.route request { s with balancer := b } =
    ((adapter.route request s).1, { (adapter.route request s).2 with balancer := b })
  invoke : ∀ e s, KeepsRoundRobin s (adapter.invoke request e s).2
  onSuccess : ∀ e s, KeepsRoundRobin s (adapter.onSuccess request e s)
  onFailure : ∀ e error s, KeepsRoundRobin s (adapter.onFailure request e error s)
  sleep : ∀ d s, KeepsRoundRobin s (invoker.sleep d s)
  deliver : ∀ event s, KeepsRoundRobin s (invoker.deliver event s).1

section Leaves

variable {c : Call σ α} (leaves : LeavesBalancer c.invoker c.adapter c.request)
include leaves

theorem LeavesBalancer.routed (s : Session σ) :
    (c.route.run s).session.balancer = s.balancer :=
  congrArg (·.2.balancer) (leaves.route s s.balancer)

theorem LeavesBalancer.available_eq (s : Session σ) (b : Balancer) :
    (Round.first { s with balancer := b }).available c = (Round.first s).available c := by
  have listed : c.route.run { s with balancer := b } =
      ⟨(c.route.run s).value, { (c.route.run s).session with balancer := b },
        (c.route.run s).trace⟩ :=
    congrArg (fun routed => (⟨routed.1, routed.2, [.routed]⟩ : Outcome σ _)) (leaves.route s b)
  unfold Round.available Round.first
  rw [listed]
  rfl

theorem LeavesBalancer.whole : Whole KeepsRoundRobin c where
  refl _ turns := turns
  trans first second turns := second (first turns)
  route s turns := by
    rw [← leaves.routed s] at turns
    exact turns
  onSuccess := leaves.onSuccess
  onFailure := leaves.onFailure
  sleep := leaves.sleep
  deliver := leaves.deliver
  balance _ _ _ turns := Picker.elect_isRoundRobin turns
  invokes := leaves.invoke
  breakers _ _ turns := turns

end Leaves

theorem preferUntried_nil (available : List Endpoint) : preferUntried [] available = available := by
  simp [preferUntried]

structure Pinned (c : Call σ α) (key : String) (s : Session σ) : Prop where
  -- Whatever the count, the first one who is meant, and nothing is counted.
  meant : ∀ e, ((Round.first s).available c).find? (Advice.isMeant key) = some e → ∀ counter,
    let r := Round.first { s with balancer := .roundRobin counter }
    r.elected? c = some e ∧ (r.election c).session.balancer = .roundRobin counter
  -- If nobody is meant, whom the round robin chooses.
  nobody : ((Round.first s).available c).find? (Advice.isMeant key) = none →
    let chosen := s.balancer.choose c.request ((Round.first s).available c)
    (Round.first s).elected? c = chosen.1 ∧ ((Round.first s).election c).session.balancer = chosen.2
  later : ∃ rounds, Course c (.ofLimits c.limits s.clock) none (.first s) rounds (c.run.run s) ∧
    ∀ k r, rounds[k]? = some r → PrefersUntried c (usedIn c (rounds.take k)) r

section Pinned

variable {c : Call σ α} {key : String} {s : Session σ}
  (leaves : LeavesBalancer c.invoker c.adapter c.request)
include leaves

theorem first_elects (somebody : (Round.first s).available c ≠ []) {v : Verdict}
    (elects : Picker.elect ⟨s.balancer, c.invoker.mode⟩ c.request ((Round.first s).available c)
      c.advice 0 = v) (undisputed : v.adviceFailure = none) :
    (Round.first s).elected? c = v.outcome.toOption ∧
      ((Round.first s).election c).session.balancer = v.balancer := by
  refine Round.election_of_somebody somebody ?_ undisputed
  rw [leaves.routed, Round.earlier_first]
  change Picker.elect _ _ (preferUntried [] _) _ 0 = v
  rw [preferUntried_nil]
  exact elects

theorem elected_of_meant (advised : c.advice = some (.sticky key)) {e : Endpoint}
    (meant : ((Round.first s).available c).find? (Advice.isMeant key) = some e) :
    (Round.first s).elected? c = some e ∧
      ((Round.first s).election c).session.balancer = s.balancer := by
  have somebody : (Round.first s).available c ≠ [] :=
    List.ne_nil_of_mem (List.mem_of_find?_eq_some meant)
  refine first_elects leaves somebody (v := ⟨.ok e, none, true, s.balancer⟩) ?_ rfl
  rw [advised]
  exact Picker.elect_of_named somebody (by rw [Advice.sticky_eq, meant])

theorem elected_of_nobody_meant (advised : c.advice = some (.sticky key))
    (turns : s.balancer.IsRoundRobin)
    (nobody : ((Round.first s).available c).find? (Advice.isMeant key) = none) :
    (Round.first s).elected? c = (s.balancer.choose c.request ((Round.first s).available c)).1 ∧
      ((Round.first s).election c).session.balancer =
        (s.balancer.choose c.request ((Round.first s).available c)).2 := by
  by_cases somebody : (Round.first s).available c = []
  · obtain ⟨counter, roundRobin⟩ := turns
    obtain ⟨unelected, left⟩ := Round.election_of_nobody somebody
    rw [somebody, unelected, left, roundRobin]
    exact ⟨rfl, (leaves.routed s).trans roundRobin⟩
  · have chooses : Picker.elect ⟨s.balancer, c.invoker.mode⟩ c.request
        ((Round.first s).available c) c.advice 0 =
          Picker.choose ⟨s.balancer, c.invoker.mode⟩ c.request ((Round.first s).available c) true
            none := by
      rw [advised]
      exact Picker.elect_of_abstained somebody (by rw [Advice.sticky_eq, nobody])
    obtain ⟨elected, left⟩ := first_elects leaves somebody chooses rfl
    rw [elected, left, Picker.choose]
    obtain ⟨_ | e, next⟩ := s.balancer.choose c.request ((Round.first s).available c)
    · exact ⟨rfl, rfl⟩
    · exact ⟨rfl, rfl⟩

theorem run_pinned (advised : c.advice = some (.sticky key)) (turns : s.balancer.IsRoundRobin) :
    Pinned c key s where
  meant e meant counter :=
    elected_of_meant leaves advised ((leaves.available_eq s (.roundRobin counter)).symm ▸ meant)
  nobody := elected_of_nobody_meant leaves advised turns
  later := by
    obtain ⟨rounds, course⟩ := run_course c s
    refine ⟨rounds, course, fun k r made => ?_⟩
    have found := (course.leads leaves.whole).1 r (List.mem_of_getElem? made) turns
    have builtIn : Advice.IsBuiltIn c.advice := .inr (.inl ⟨key, advised⟩)
    refine Round.prefersUntried builtIn (leaves.whole.listing r.found found) (fun a => ?_)
    rw [course.mem_tried_iff k r made]
    simp [Round.first]

end Pinned

end Call

namespace Governor

variable {σ α : Type}

def pinnedCall (g : Governor σ) (adapter : Call.Adapter σ α) (request : Request) (key : String)
    (rule : MethodPolicy) : Call σ α :=
  ⟨g.invoker, adapter, request, rule.limits, some (.sticky key)⟩

theorem resolve_of_published {policies : PolicyRegistry} {request : Request}
    (published : policies.get? request.service request.group ≠ none) (tags : Tag.Registry) :
    ∃ rule, policies.resolve request tags = .ok rule := by
  rw [PolicyRegistry.get?, ne_eq, Option.map_eq_none_iff] at published
  obtain ⟨service, found⟩ := Option.ne_none_iff_exists'.1 published
  rw [PolicyRegistry.resolve, found]
  exact ⟨_, rfl⟩

theorem call_of_sticky {g : Governor σ} {request : Request} {key : String} {rule : MethodPolicy}
    (sticky : request.stickyId = some key) (named : key ≠ "")
    (resolved : g.policies.resolve request g.tags = .ok rule) (adapter : Call.Adapter σ α) :
    g.call adapter request none = (g.pinnedCall adapter request key rule).run := by
  have pinned : request.stickyKey? = some key := by
    rw [Request.stickyKey?, sticky]
    simpa using named
  rw [call, resolved, adviceFor, Option.none_or, Advice.ofRequest?, pinned]
  rfl

section Basket

open Governance.Call

-- A customer of one of three shops, who is pinned to the second one by its address.
def basketRequest : Request := { Request.plain "shop" none with stickyId := some "g:1" }

def shops : Adapter Unit String where
  route _ s := (.ok [twin "h", twin "g", twin "k"], s)
  invoke _ _ s := (some (.failure (.new "down")), s)

def shopGovernor : Governor Unit where
  policies := PolicyRegistry.empty.publish (.new "shop")
  tags := .empty
  invoker := ⟨.nowhere, .standard, .fail, fun _ s => s, fun _ s => (s, [])⟩

theorem shops_leave : LeavesBalancer shopGovernor.invoker shops basketRequest where
  route _ _ := rfl
  invoke _ _ turns := turns
  onSuccess _ _ turns := turns
  onFailure _ _ _ turns := turns
  sleep _ _ turns := turns
  deliver _ _ turns := turns

end Basket

end Governor

end Governance
