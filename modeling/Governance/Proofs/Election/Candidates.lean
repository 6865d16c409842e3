import Governance.Election.Picker
import Governance.Proofs.Election.RoundRobin
import Governance.Proofs.Routing.Chains

set_option autoImplicit false

namespace Governance

namespace Balancer

def Faithful : Balancer → Prop
  | .custom _ rule _ => ∀ choices r candidates e,
    rule choices r candidates = some e → e ∈ candidates
  | _ => True

theorem mem_of_atPoint {shares : List (Endpoint × Nat)} {point : Nat} {e : Endpoint}
    (chosen : atPoint shares point = some e) : e ∈ shares.map (·.1) := by
  induction shares generalizing point with
  | nil => cases chosen
  | cons first rest ih =>
    rw [atPoint] at chosen
    split at chosen
    · cases chosen
      exact List.mem_cons_self
    · exact List.mem_cons_of_mem _ (ih chosen)

theorem mem_of_chooseAt {shares : List (Endpoint × Nat)} {draw : Nat → Nat} {e : Endpoint}
    (chosen : chooseAt shares draw = some e) : e ∈ shares.map (·.1) := by
  unfold chooseAt at chosen
  split at chosen
  · rw [← List.getElem?_map] at chosen
    exact List.mem_of_getElem? chosen
  · obtain inShare | ⟨-, last⟩ := Option.or_eq_some_iff.1 chosen
    · exact mem_of_atPoint inShare
    · rw [← List.getLast?_map] at last
      exact List.mem_of_getLast? last

@[simp]
theorem shares_endpoints (r : Request) (now : Nat → Millis) (candidates : List Endpoint) :
    (shares r now candidates).map (·.1) = candidates := by
  apply List.ext_getElem <;> simp [shares]

theorem choose_mem {b : Balancer} {r : Request} {candidates : List Endpoint} {e : Endpoint}
    (faithful : b.Faithful) (chosen : (b.choose r candidates).1 = some e) : e ∈ candidates := by
  cases b with
  | roundRobin counter =>
    simp only [choose] at chosen
    split at chosen
    · cases chosen
    · exact List.mem_of_getElem? chosen
  | weighted chance readings =>
    simp only [choose] at chosen
    split at chosen
    · cases chosen
    · simpa using mem_of_chooseAt chosen
  | custom name rule choices => exact faithful choices r candidates e chosen

theorem choose_faithful {b : Balancer} (faithful : b.Faithful) (r : Request)
    (candidates : List Endpoint) : (b.choose r candidates).2.Faithful := by
  cases b with
  | roundRobin counter | weighted chance readings =>
    simp only [choose]
    split <;> trivial
  | custom name rule choices => exact faithful

def IsRoundRobin (b : Balancer) : Prop := ∃ counter, b = .roundRobin counter

section RoundRobin

variable {b : Balancer} (turns : b.IsRoundRobin)
include turns

theorem IsRoundRobin.faithful : b.Faithful := by
  obtain ⟨counter, rfl⟩ := turns
  trivial

theorem IsRoundRobin.next (r : Request) (candidates : List Endpoint) :
    (b.choose r candidates).2.IsRoundRobin := by
  obtain ⟨counter, rfl⟩ := turns
  simp only [choose]
  split <;> exact ⟨_, rfl⟩

theorem IsRoundRobin.chooses (r : Request) {candidates : List Endpoint}
    (some : candidates ≠ []) : ∃ e, (b.choose r candidates).1 = .some e := by
  obtain ⟨counter, rfl⟩ := turns
  have inside := Nat.mod_lt (turn counter 0) (List.length_pos_iff.2 some)
  rw [choose_roundRobin counter some]
  exact ⟨_, List.getElem?_eq_getElem inside⟩

end RoundRobin

end Balancer

namespace Advice

def IsBuiltIn (advice : Option Advice) : Prop :=
  advice = none ∨ (∃ key, advice = some (sticky key)) ∨ ∃ name, advice = some (lane name)

theorem IsBuiltIn.names_candidate {given : Option Advice} (builtIn : IsBuiltIn given)
    {advice : Advice} (some : given = some advice) {earlier : Nat} {candidates : List Endpoint}
    {e : Endpoint} (names : advice earlier candidates = .ok (.some e)) : e ∈ candidates := by
  subst some
  obtain none | ⟨key, same⟩ | ⟨name, same⟩ := builtIn
  · cases none
  all_goals
    cases same
    exact List.mem_of_find?_eq_some (Except.ok.inj names)

theorem IsBuiltIn.ne_error {given : Option Advice} (builtIn : IsBuiltIn given)
    {advice : Advice} (some : given = some advice) (earlier : Nat) (candidates : List Endpoint)
    (error : AdviceError) : advice earlier candidates ≠ .error error := by
  subst some
  obtain none | ⟨key, same⟩ | ⟨name, same⟩ := builtIn
  · cases none
  all_goals
    cases same
    nofun

end Advice

namespace Picker

variable {p : Picker} {r : Request} {candidates : List Endpoint} {advice : Option Advice}
  {earlier : Nat}

theorem mem_of_choose {asked : Bool} {failure : Option AdviceError} {e : Endpoint}
    (faithful : p.balancer.Faithful)
    (chosen : (p.choose r candidates asked failure).outcome = .ok e) : e ∈ candidates := by
  unfold choose at chosen
  cases given : (p.balancer.choose r candidates).1 with
  | none => simp [given] at chosen
  | some own =>
    obtain rfl : own = e := by simpa [given] using chosen
    exact Balancer.choose_mem faithful given

theorem mem_of_elect {e : Endpoint} (faithful : p.balancer.Faithful)
    (builtIn : Advice.IsBuiltIn advice)
    (elected : (p.elect r candidates advice earlier).outcome = .ok e) : e ∈ candidates := by
  unfold elect at elected
  split at elected
  · cases elected
  · split at elected
    · exact mem_of_choose faithful elected
    · split at elected
      · rename_i named
        cases elected
        exact builtIn.names_candidate rfl named
      · exact mem_of_choose faithful elected
      · split at elected
        · cases elected
        · exact mem_of_choose faithful elected

theorem elect_balancer (p : Picker) (r : Request) (candidates : List Endpoint)
    (advice : Option Advice) (earlier : Nat) :
    (p.elect r candidates advice earlier).balancer = p.balancer ∨
      (p.elect r candidates advice earlier).balancer = (p.balancer.choose r candidates).2 := by
  unfold elect
  repeat' split
  all_goals first | exact .inl rfl | exact .inr rfl

theorem elect_faithful (faithful : p.balancer.Faithful) :
    (p.elect r candidates advice earlier).balancer.Faithful := by
  obtain same | same := p.elect_balancer r candidates advice earlier <;> rw [same]
  · exact faithful
  · exact Balancer.choose_faithful faithful r candidates

theorem elect_isRoundRobin (turns : p.balancer.IsRoundRobin) :
    (p.elect r candidates advice earlier).balancer.IsRoundRobin := by
  obtain same | same := p.elect_balancer r candidates advice earlier <;> rw [same]
  · exact turns
  · exact turns.next r candidates

theorem choose_of_isRoundRobin (turns : p.balancer.IsRoundRobin) (some : candidates ≠ [])
    (asked : Bool) (failure : Option AdviceError) :
    ∃ e, (p.choose r candidates asked failure).outcome = .ok e := by
  obtain ⟨e, chosen⟩ := turns.chooses r some
  exact ⟨e, by simp [choose, chosen]⟩

theorem elect_of_isRoundRobin (turns : p.balancer.IsRoundRobin)
    (builtIn : Advice.IsBuiltIn advice) (some : candidates ≠ []) :
    ∃ e, (p.elect r candidates advice earlier).outcome = .ok e := by
  unfold elect
  rw [if_neg (by simpa using some)]
  cases advice with
  | none => exact choose_of_isRoundRobin turns some _ _
  | some advice =>
    dsimp only
    split
    · exact ⟨_, rfl⟩
    · exact choose_of_isRoundRobin turns some _ _
    · rename_i error fails
      exact absurd fails (builtIn.ne_error rfl earlier candidates error)

end Picker

namespace Routing

def Filter.Narrows : Filter → Prop
  | .custom keep => ∀ c endpoints, keep c endpoints ⊆ endpoints
  | _ => True

theorem Filter.Narrows.apply_subset {filter : Filter} (narrows : filter.Narrows) (c : Context)
    (endpoints : List Endpoint) : filter.apply c endpoints ⊆ endpoints := by
  cases filter with
  | health | live | lane | zone => exact Filter.IsBuiltIn.apply_subset (by trivial) c endpoints
  | custom keep => exact narrows c endpoints

theorem Chain.apply_subset {chain : Chain} (narrows : ∀ filter ∈ chain, filter.Narrows)
    (c : Context) (endpoints : List Endpoint) : chain.apply c endpoints ⊆ endpoints := by
  unfold Chain.apply
  induction chain generalizing endpoints with
  | nil => exact List.Subset.refl _
  | cons filter later ih =>
    obtain ⟨first, rest⟩ := List.forall_mem_cons.1 narrows
    exact List.Subset.trans (ih rest _) (first.apply_subset c endpoints)

end Routing

end Governance
