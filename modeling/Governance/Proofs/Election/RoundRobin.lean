import Mathlib.Algebra.Group.Nat.Defs
import Mathlib.Data.List.Rotate
import Governance.Election.Balancer

set_option autoImplicit false

namespace Governance.Balancer

def largestCount : Nat := 2 ^ 63 - 1

def countAfter (count : Nat) : Nat := if count < largestCount then count + 1 else 0

def turn (counter : Int64) : Nat → Nat
  | 0 => if 0 ≤ counter.toInt then counter.toInt.toNat else 0
  | j + 1 => countAfter (turn counter j)

def choices (b : Balancer) (candidates : List Endpoint) : List Request → List (Option Endpoint)
  | [] => []
  | r :: later =>
    (b.choose r candidates).1 :: choices (b.choose r candidates).2 candidates later

theorem length_choices (b : Balancer) (candidates : List Endpoint) (rs : List Request) :
    (choices b candidates rs).length = rs.length := by
  induction rs generalizing b with
  | nil => rfl
  | cons r later ih => simp [choices, ih]

section Counts

variable {counter : Int64}

theorem turn_zero : turn counter 0 = counter.toInt.toNat := by
  unfold turn
  split <;> omega

theorem toInt_nextCount : (nextCount counter).1.toInt = turn counter 0 := by
  rw [turn_zero, nextCount]
  split
  all_goals
    rename_i sign
    simp only [Int64.lt_iff_toInt_lt, Int64.toInt_zero] at sign ⊢
    omega

-- After the largest count the one that is left is below zero, so the next choice is at zero.
theorem turn_zero_nextCount : turn (nextCount counter).2 0 = countAfter (turn counter 0) := by
  have low := counter.le_toInt
  have high := counter.toInt_lt
  rw [turn_zero, turn_zero, nextCount, countAfter, largestCount]
  split
  all_goals
    rename_i sign
    simp only [Int64.lt_iff_toInt_lt, Int64.toInt_zero, Int64.toInt_one, Int64.toInt_add,
      Int.bmod_def] at sign ⊢
    split_ifs <;> omega

theorem turn_nextCount (j : Nat) : turn (nextCount counter).2 j = turn counter (j + 1) := by
  induction j with
  | zero => exact turn_zero_nextCount
  | succ j ih => simp only [turn, ih]

theorem turn_add {first n i : Nat}
    (goesOn : ∀ j < first + n, first < j → turn counter j ≠ 0) (inside : i < n) :
    turn counter (first + i) = turn counter first + i := by
  induction i with
  | zero => rfl
  | succ i ih =>
    have before := ih (by omega)
    have later := goesOn (first + (i + 1)) (by omega) (by omega)
    rw [← Nat.add_assoc, turn, countAfter] at later ⊢
    split
    · omega
    · rename_i largest
      exact absurd (if_neg largest) later

end Counts

section Choices

variable (counter : Int64) {candidates : List Endpoint} (nonempty : candidates ≠ [])
include nonempty

theorem choose_roundRobin (r : Request) :
    (roundRobin counter).choose r candidates =
      (candidates[turn counter 0 % candidates.length]?, .roundRobin (nextCount counter).2) := by
  have index : roundRobinIndex (nextCount counter).1 candidates.length =
      turn counter 0 % candidates.length := by
    rw [roundRobinIndex, toInt_nextCount]
    exact Int.toNat_natCast _
  simp [choose, index, nonempty]

theorem getElem?_choices (rs : List Request) (j : Nat) :
    (choices (.roundRobin counter) candidates rs)[j]? =
      if j < rs.length then some candidates[turn counter j % candidates.length]? else none := by
  induction rs generalizing counter j with
  | nil => rfl
  | cons r later ih =>
    rw [choices, choose_roundRobin counter nonempty]
    cases j with
    | zero => simp
    | succ j => simp [ih, turn_nextCount]

end Choices

section Window

variable {counter : Int64} {candidates : List Endpoint} {first : Nat}
  (goesOn : ∀ j < first + candidates.length, first < j → turn counter j ≠ 0)
include goesOn

theorem positions_eq_rotate :
    (List.range candidates.length).map (fun i => turn counter (first + i) % candidates.length) =
      (List.range candidates.length).rotate (turn counter first) := by
  apply List.ext_getElem
  · simp
  · intro i inside _
    have inWindow : i < candidates.length := by simpa using inside
    simp [List.getElem_rotate, turn_add goesOn inWindow, Nat.add_comm i]

theorem choices_eq_rotate (rs : List Request) (made : first + candidates.length ≤ rs.length) :
    ((choices (.roundRobin counter) candidates rs).drop first).take candidates.length =
      (candidates.rotate (turn counter first)).map some := by
  apply List.ext_getElem?
  intro i
  by_cases inside : i < candidates.length
  · have nonempty : candidates ≠ [] := List.ne_nil_of_length_pos (by omega)
    have reached : first + i < rs.length := by omega
    have index := Nat.mod_lt (turn counter first + i) (List.length_pos_iff.2 nonempty)
    simp [getElem?_choices counter nonempty, inside, reached, turn_add goesOn inside,
      Nat.add_comm i, index]
  · rw [List.getElem?_take_eq_none (by omega), List.getElem?_eq_none (by simpa using inside)]

end Window

/-- A round robin chooses the candidate at each count's remainder, and so everybody once in a round
that the count does not start again in. -/
theorem roundRobin_takesTurns (counter : Int64) {candidates : List Endpoint}
    (nonempty : candidates ≠ []) (rs : List Request) :
    (choices (.roundRobin counter) candidates rs).length = rs.length ∧
    (∀ j < rs.length, ∃ e, candidates[turn counter j % candidates.length]? = some e ∧
      (choices (.roundRobin counter) candidates rs)[j]? = some (some e)) ∧
    ∀ first, first + candidates.length ≤ rs.length →
      (∀ j < first + candidates.length, first < j → turn counter j ≠ 0) →
      ((List.range candidates.length).map
        (fun i => turn counter (first + i) % candidates.length)).Perm
          (List.range candidates.length) ∧
      ((choices (.roundRobin counter) candidates rs).drop first).take candidates.length =
        (candidates.rotate (turn counter first)).map some := by
  refine ⟨length_choices _ _ _, ?_, fun first made goesOn => ⟨?_, choices_eq_rotate goesOn rs made⟩⟩
  · intro j made
    have inside := Nat.mod_lt (turn counter j) (List.length_pos_iff.2 nonempty)
    refine ⟨candidates[turn counter j % candidates.length], List.getElem?_eq_getElem inside, ?_⟩
    rw [getElem?_choices counter nonempty, if_pos made, List.getElem?_eq_getElem inside]
  · rw [positions_eq_rotate goesOn]
    exact List.rotate_perm _ _

def trio : List Endpoint :=
  ["a", "b", "c"].map (fun host => ⟨host, 1, .healthy, .empty⟩)

def nearlyLargest : Int64 := Int64.maxValue - 1

def sixCalls : List Request := List.replicate 6 (.plain "svc" none)

/-- The count starts again after the second of six choices; the three choices from there on are one
round. -/
theorem trio_takesTurns :
    trio ≠ [] ∧
    (List.range 6).map (turn nearlyLargest) = [2 ^ 63 - 2, 2 ^ 63 - 1, 0, 1, 2, 3] ∧
    (∃ e, trio[1]? = some e ∧
      (choices (.roundRobin nearlyLargest) trio sixCalls)[1]? = some (some e)) ∧
    ((choices (.roundRobin nearlyLargest) trio sixCalls).drop 2).take 3 = trio.map some := by
  have nonempty : trio ≠ [] := by decide
  have counts : (List.range 6).map (turn nearlyLargest) = [2 ^ 63 - 2, 2 ^ 63 - 1, 0, 1, 2, 3] := by
    decide
  obtain ⟨-, chosen, rounds⟩ := roundRobin_takesTurns nearlyLargest nonempty sixCalls
  refine ⟨nonempty, counts, chosen 1 (by decide), ?_⟩
  exact (rounds 2 (by decide) (by decide)).2

end Governance.Balancer
