import Mathlib.Algebra.Group.Action.Defs
import Mathlib.Algebra.GroupWithZero.Nat
import Mathlib.Algebra.Order.BigOperators.Group.Finset
import Mathlib.Order.Interval.Finset.Nat
import Governance.Proofs.Election.Candidates
import Governance.Proofs.Words

set_option autoImplicit false

namespace Governance

def Chance.drawing (chance : Chance) (point : Nat) : Chance :=
  { chance with draw := fun _ _ => point }

namespace Balancer

open Governance.Words

def InShare (weights : List Nat) (i point : Nat) : Prop :=
  (weights.take i).sum ≤ point ∧ point < (weights.take (i + 1)).sum

instance (weights : List Nat) (i : Nat) : DecidablePred (InShare weights i) :=
  fun _ => inferInstanceAs (Decidable (_ ∧ _))

def sharesAt (chance : Chance) (readings : Nat) (r : Request) (candidates : List Endpoint) :
    List (Endpoint × Nat) :=
  shares r (fun i => chance.wallClock (readings + i)) candidates

def weights (chance : Chance) (readings : Nat) (r : Request) (candidates : List Endpoint) :
    List Nat :=
  (sharesAt chance readings r candidates).map (·.2)

def chosenAt (chance : Chance) (readings : Nat) (r : Request) (candidates : List Endpoint)
    (point : Nat) : Option Endpoint :=
  ((Balancer.weighted (chance.drawing point) readings).choose r candidates).1

def totalInWords? : List (Endpoint × Nat) → Nat → Option Nat
  | [], total => some total
  | (_, weight) :: rest, total => do totalInWords? rest (← fits? 64 (total + weight))

def walkInWords? : List (Endpoint × Nat) → Nat → Option Endpoint
  | [], _ => none
  | (e, weight) :: rest, point =>
    if point < weight then some e else do walkInWords? rest (← minus? point weight)

-- The choice computed in words of 64 bits, without anybody to fall back on.
def chooseInWords? (shares : List (Endpoint × Nat)) (draw : Nat → Nat) : Option Endpoint := do
  let total ← totalInWords? shares 0
  walkInWords? shares (draw total)

structure ChoosesByShare (choice : Nat → Option Endpoint) (candidates : List Endpoint)
    (weights : List Nat) : Prop where
  covered : ∀ point < weights.sum, ∃! i, InShare weights i point
  chosen : ∀ i point, InShare weights i point →
    ∃ e, candidates[i]? = some e ∧ choice point = some e
  proportional : ∀ i, ((Finset.range weights.sum).filter (InShare weights i)).card = weights.getD i 0
  tally : ∀ e, ((Finset.range weights.sum).filter (fun point => choice point = some e)).card =
    ∑ i ∈ (Finset.range candidates.length).filter (fun i => candidates[i]? = some e),
      weights.getD i 0
  weightless : ∀ i point, weights.getD i 0 = 0 → ¬ InShare weights i point
  sole : ∀ i point, (∀ j, j ≠ i → weights.getD j 0 = 0) → point < weights.sum →
    ∃ e, candidates[i]? = some e ∧ choice point = some e

section Shares

variable {weights : List Nat} {i j point : Nat}

theorem not_inShare_nil : ¬ InShare [] i point := by
  simp [InShare]

theorem inShare_cons_zero {weight : Nat} :
    InShare (weight :: weights) 0 point ↔ point < weight := by
  simp [InShare]

-- Past a share, what is left of the point lies in the shares that are left.
theorem inShare_cons_succ {weight : Nat} :
    InShare (weight :: weights) (i + 1) point ↔
      weight ≤ point ∧ InShare weights i (point - weight) := by
  simp only [InShare, List.take_succ_cons, List.sum_cons]
  omega

theorem exists_inShare (inside : point < weights.sum) : ∃ i, InShare weights i point := by
  induction weights generalizing point with
  | nil => simp at inside
  | cons weight rest ih =>
    by_cases first : point < weight
    · exact ⟨0, inShare_cons_zero.2 first⟩
    · rw [List.sum_cons] at inside
      obtain ⟨i, later⟩ := @ih (point - weight) (by omega)
      exact ⟨i + 1, inShare_cons_succ.2 ⟨by omega, later⟩⟩

theorem inShare_unique (first : InShare weights i point) (second : InShare weights j point) :
    i = j := by
  induction weights generalizing i j point with
  | nil => exact absurd first not_inShare_nil
  | cons weight rest ih =>
    cases i <;> cases j <;> simp only [inShare_cons_zero, inShare_cons_succ] at first second
    · rfl
    · omega
    · omega
    · exact congrArg (· + 1) (ih first.2 second.2)

theorem sum_take_succ (weights : List Nat) (i : Nat) :
    (weights.take (i + 1)).sum = (weights.take i).sum + weights.getD i 0 := by
  rw [List.take_add_one, List.sum_append]
  cases found : weights[i]? <;> simp [found, List.getD]

theorem weight_pos_of_inShare (within : InShare weights i point) : 0 < weights.getD i 0 := by
  have whole := sum_take_succ weights i
  obtain ⟨low, high⟩ := within
  omega

theorem sum_take_le (weights : List Nat) (i : Nat) : (weights.take i).sum ≤ weights.sum := by
  have whole := congrArg List.sum (weights.take_append_drop i)
  rw [List.sum_append] at whole
  omega

theorem card_inShare (weights : List Nat) (i : Nat) :
    ((Finset.range weights.sum).filter (InShare weights i)).card = weights.getD i 0 := by
  have interval : (Finset.range weights.sum).filter (InShare weights i) =
      Finset.Ico (weights.take i).sum (weights.take (i + 1)).sum := by
    ext point
    have bound := sum_take_le weights (i + 1)
    simp only [Finset.mem_filter, Finset.mem_range, Finset.mem_Ico, InShare]
    omega
  rw [interval, Nat.card_Ico, sum_take_succ]
  omega

end Shares

section Walk

variable {shares : List (Endpoint × Nat)} {i point : Nat}

theorem totalWeight_eq_sum (shares : List (Endpoint × Nat)) :
    totalWeight shares = (shares.map (·.2)).sum := by
  induction shares with
  | nil => rfl
  | cons first rest ih => simp [totalWeight, ih]

theorem atPoint_of_inShare (within : InShare (shares.map (·.2)) i point) :
    ∃ e, (shares.map (·.1))[i]? = some e ∧ atPoint shares point = some e := by
  induction shares generalizing i point with
  | nil => exact absurd within not_inShare_nil
  | cons first rest ih =>
    cases i with
    | zero =>
      have hit : point < first.2 := inShare_cons_zero.1 within
      exact ⟨first.1, rfl, if_pos hit⟩
    | succ i =>
      obtain ⟨past, later⟩ := inShare_cons_succ.1 within
      rw [atPoint, if_neg (Nat.not_lt.2 past)]
      exact ih later

theorem totalInWords?_eq {total : Nat} (fits : total + totalWeight shares < 2 ^ 64) :
    totalInWords? shares total = some (total + totalWeight shares) := by
  induction shares generalizing total with
  | nil => rfl
  | cons first rest ih =>
    rw [totalWeight, ← Nat.add_assoc] at fits ⊢
    rw [totalInWords?, fits?_of_lt (by omega)]
    exact ih fits

theorem walkInWords?_eq (shares : List (Endpoint × Nat)) (point : Nat) :
    walkInWords? shares point = atPoint shares point := by
  induction shares generalizing point with
  | nil => rfl
  | cons first rest ih =>
    rw [walkInWords?, atPoint]
    split
    · rfl
    · rw [minus?_of_le (by omega)]
      exact ih _

end Walk

section Choice

variable {choice : Nat → Option Endpoint} {candidates : List Endpoint} {weights : List Nat}
  (chosen : ∀ i point, InShare weights i point →
    ∃ e, candidates[i]? = some e ∧ choice point = some e)
include chosen

theorem filter_choice_eq (e : Endpoint) :
    (Finset.range weights.sum).filter (fun point => choice point = some e) =
      ((Finset.range candidates.length).filter (fun i => candidates[i]? = some e)).biUnion
        (fun i => (Finset.range weights.sum).filter (InShare weights i)) := by
  ext point
  simp only [Finset.mem_filter, Finset.mem_biUnion, Finset.mem_range]
  constructor
  · rintro ⟨inside, wins⟩
    obtain ⟨i, within⟩ := exists_inShare inside
    obtain ⟨winner, there, same⟩ := chosen i point within
    obtain rfl : winner = e := Option.some.inj (same.symm.trans wins)
    exact ⟨i, ⟨(List.getElem?_eq_some_iff.1 there).1, there⟩, inside, within⟩
  · rintro ⟨i, ⟨-, there⟩, inside, within⟩
    obtain ⟨winner, same, wins⟩ := chosen i point within
    exact ⟨inside, wins.trans (same.symm.trans there)⟩

theorem card_choice_eq (e : Endpoint) :
    ((Finset.range weights.sum).filter (fun point => choice point = some e)).card =
      ∑ i ∈ (Finset.range candidates.length).filter (fun i => candidates[i]? = some e),
        weights.getD i 0 := by
  rw [filter_choice_eq chosen, Finset.card_biUnion]
  · exact Finset.sum_congr rfl fun i _ => card_inShare weights i
  · intro i _ j _ differ
    refine Finset.disjoint_left.2 fun point first second => ?_
    exact differ (inShare_unique (Finset.mem_filter.1 first).2 (Finset.mem_filter.1 second).2)

theorem choosesByShare_of_chosen : ChoosesByShare choice candidates weights where
  covered := by
    intro point inside
    obtain ⟨i, within⟩ := exists_inShare inside
    exact ⟨i, within, fun j other => inShare_unique other within⟩
  chosen := chosen
  proportional := card_inShare weights
  tally := card_choice_eq chosen
  weightless := by
    intro i point weightless within
    have positive := weight_pos_of_inShare within
    omega
  sole := by
    intro i point others inside
    obtain ⟨j, within⟩ := exists_inShare inside
    by_cases same : j = i
    · exact chosen i point (same ▸ within)
    · have positive := weight_pos_of_inShare within
      rw [others j same] at positive
      exact absurd positive (Nat.lt_irrefl 0)

end Choice

section Weighted

variable (chance : Chance) (readings : Nat) (r : Request) {candidates : List Endpoint}

theorem length_weights (candidates : List Endpoint) :
    (weights chance readings r candidates).length = candidates.length := by
  simp [weights, sharesAt, shares]

theorem weight_lt {weight : Nat} (mem : weight ∈ weights chance readings r candidates) :
    weight < 2 ^ 32 := by
  simp only [weights, sharesAt, shares, List.mem_map, List.mem_mapIdx] at mem
  obtain ⟨_, ⟨i, inside, rfl⟩, rfl⟩ := mem
  exact UInt32.toNat_lt _

-- So few weights of 32 bits do not add up to more than 64 bits hold.
theorem sum_weights_lt (few : candidates.length < 2 ^ 32) :
    (weights chance readings r candidates).sum < 2 ^ 64 := by
  have bound := List.sum_le_card_nsmul (weights chance readings r candidates) (2 ^ 32 - 1)
    fun weight mem => Nat.le_pred_of_lt (weight_lt chance readings r mem)
  rw [length_weights, smul_eq_mul] at bound
  omega

theorem totalWeight_sharesAt (candidates : List Endpoint) :
    totalWeight (sharesAt chance readings r candidates) =
      (weights chance readings r candidates).sum :=
  totalWeight_eq_sum _

section Weighty

variable (weighty : 0 < (weights chance readings r candidates).sum)
include weighty

theorem choose_weighted :
    ((Balancer.weighted chance readings).choose r candidates).1 =
      (atPoint (sharesAt chance readings r candidates)
        (chance.draw readings (weights chance readings r candidates).sum)).or
          ((sharesAt chance readings r candidates).getLast?.map (·.1)) := by
  have nonempty : candidates ≠ [] := by
    rintro rfl
    cases weighty
  have total := totalWeight_sharesAt chance readings r candidates
  have asked : ((Balancer.weighted chance readings).choose r candidates).1 =
      chooseAt (sharesAt chance readings r candidates) (chance.draw readings) := by
    simp [choose, sharesAt, nonempty]
  rw [asked, chooseAt, if_neg (by omega), total]

theorem chosenAt_eq (point : Nat) :
    chosenAt chance readings r candidates point =
      (atPoint (sharesAt chance readings r candidates) point).or
        ((sharesAt chance readings r candidates).getLast?.map (·.1)) :=
  choose_weighted (chance.drawing point) readings r weighty

end Weighty

theorem chosenAt_of_inShare {i point : Nat}
    (within : InShare (weights chance readings r candidates) i point) :
    ∃ e, candidates[i]? = some e ∧ chosenAt chance readings r candidates point = some e := by
  obtain ⟨e, there, hit⟩ := atPoint_of_inShare within
  have endpoints : (sharesAt chance readings r candidates).map (·.1) = candidates :=
    shares_endpoints _ _ _
  have weighty := Nat.lt_of_lt_of_le within.2 (sum_take_le _ _)
  refine ⟨e, endpoints ▸ there, ?_⟩
  rw [chosenAt_eq _ _ _ (Nat.zero_lt_of_lt weighty), hit, Option.some_or]

theorem chooseInWords?_eq (few : candidates.length < 2 ^ 32) (draw : Nat → Nat) :
    chooseInWords? (sharesAt chance readings r candidates) draw =
      atPoint (sharesAt chance readings r candidates)
        (draw (weights chance readings r candidates).sum) := by
  have total := totalWeight_sharesAt chance readings r candidates
  have fits := sum_weights_lt chance readings r few
  rw [chooseInWords?, totalInWords?_eq (by omega), Nat.zero_add, total]
  exact walkInWords?_eq _ _

theorem weighted_choosesByShare (few : candidates.length < 2 ^ 32)
    (weighty : 0 < (weights chance readings r candidates).sum) :
    ((Balancer.weighted chance readings).choose r candidates).1 =
      chosenAt chance readings r candidates
        (chance.draw readings (weights chance readings r candidates).sum) ∧
    ChoosesByShare (chosenAt chance readings r candidates) candidates
      (weights chance readings r candidates) ∧
    ∀ point < (weights chance readings r candidates).sum,
      chooseInWords? (sharesAt chance readings r candidates) (fun _ => point) =
        chosenAt chance readings r candidates point := by
  refine ⟨?_, choosesByShare_of_chosen fun i point => chosenAt_of_inShare chance readings r, ?_⟩
  · rw [choose_weighted _ _ _ weighty, chosenAt_eq _ _ _ weighty]
  · intro point inside
    obtain ⟨i, within⟩ := exists_inShare inside
    obtain ⟨e, -, hit⟩ := atPoint_of_inShare within
    rw [chooseInWords?_eq _ _ _ few, chosenAt_eq _ _ _ weighty, hit, Option.some_or]

def unevenPool : List Endpoint :=
  [("none", "0"), ("most", "4294967295"), ("few", "10")].map
    (fun (host, weight) => ⟨host, 1, .healthy, .ofList [("weight", weight)]⟩)

def stillChance : Chance := ⟨fun _ => 0, fun _ _ => 4294967295⟩

theorem unevenPool_choosesByShare :
    unevenPool.length < 2 ^ 32 ∧
    weights stillChance 0 (.plain "svc" none) unevenPool = [0, 4294967295, 10] ∧
    (∃ e, unevenPool[1]? = some e ∧
      chosenAt stillChance 0 (.plain "svc" none) unevenPool 4294967294 = some e) ∧
    ∃ e, unevenPool[2]? = some e ∧
      ((Balancer.weighted stillChance 0).choose (.plain "svc" none) unevenPool).1 = some e := by
  have few : unevenPool.length < 2 ^ 32 := by decide
  have weigh : weights stillChance 0 (.plain "svc" none) unevenPool = [0, 4294967295, 10] := by
    decide
  obtain ⟨drawn, fair, -⟩ := weighted_choosesByShare stillChance 0 (.plain "svc" none) few
    (by rw [weigh]; decide)
  rw [weigh] at drawn fair
  refine ⟨few, weigh, fair.chosen 1 4294967294 (by decide), ?_⟩
  rw [drawn]
  exact fair.chosen 2 4294967295 (by decide)

end Weighted

end Balancer

end Governance
