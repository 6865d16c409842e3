import Mathlib.Data.List.MinMax
import Mathlib.Data.Prod.Lex
import Governance.Routing

set_option autoImplicit false

namespace Governance.Routing

section Best

variable {α β γ : Type} [LinearOrder β] [LinearOrder γ]

def best (rank : α → β) (xs : List α) : List α :=
  xs.filter (fun x => ∀ y ∈ xs, rank y ≤ rank x)

theorem mem_best_iff {rank : α → β} {xs : List α} {x : α} :
    x ∈ best rank xs ↔ x ∈ xs ∧ ∀ y ∈ xs, rank y ≤ rank x := by
  simp [best]

theorem best_eq_nil_iff {rank : α → β} {xs : List α} : best rank xs = [] ↔ xs = [] := by
  constructor
  · intro none
    rw [← List.argmax_eq_none (f := rank), Option.eq_none_iff_forall_not_mem]
    intro highest found
    have isBest : highest ∈ best rank xs :=
      mem_best_iff.2 ⟨List.argmax_mem found, fun y mem => List.le_of_mem_argmax mem found⟩
    rw [none] at isBest
    cases isBest
  · rintro rfl
    rfl

theorem best_congr {first second : α → β} {xs : List α} (same : ∀ x ∈ xs, first x = second x) :
    best first xs = best second xs := by
  apply List.filter_congr
  intro x mem
  rw [decide_eq_decide, same x mem]
  exact forall₂_congr (fun y other => by rw [same y other])

theorem best_eq_filter {rank : α → β} {xs : List α} {top : β} (bound : ∀ x, rank x ≤ top)
    (reached : ∃ x ∈ xs, rank x = top) : best rank xs = xs.filter (fun x => rank x = top) := by
  obtain ⟨highest, mem, atTop⟩ := reached
  apply List.filter_congr
  intro x _
  rw [decide_eq_decide]
  constructor
  · intro above
    exact le_antisymm (bound x) (atTop ▸ above highest mem)
  · rintro rfl y -
    exact bound y

theorem best_const (b : β) (xs : List α) : best (fun _ => b) xs = xs := by
  simp [best]

/-- What ranks highest by two ranks is what ranks highest by the second one, of what ranks highest
by the first one. -/
theorem best_lex (first : α → β) (second : α → γ) (xs : List α) :
    best (fun x => toLex (first x, second x)) xs = best second (best first xs) := by
  unfold best
  rw [List.filter_filter]
  apply List.filter_congr
  intro x mem
  rw [Bool.eq_iff_iff, Bool.and_eq_true, decide_eq_true_iff, decide_eq_true_iff,
    decide_eq_true_iff]
  simp only [Prod.Lex.toLex_le_toLex, List.mem_filter, decide_eq_true_iff]
  constructor
  · intro highest
    refine ⟨?_, fun y other => ?_⟩
    · rintro y ⟨inList, top⟩
      obtain below | ⟨-, le⟩ := highest y inList
      · exact absurd (top x mem) (not_le_of_gt below)
      · exact le
    · obtain below | ⟨same, -⟩ := highest y other
      · exact below.le
      · exact same.le
  · rintro ⟨amongTop, top⟩ y other
    obtain below | same := (top y other).lt_or_eq
    · exact .inl below
    · exact .inr ⟨same, amongTop y ⟨other, fun z inList => same ▸ top z inList⟩⟩

end Best

section Prefer

variable {keep : Endpoint → Bool} {endpoints : List Endpoint}

theorem prefer_of_none (none : endpoints.filter keep = []) :
    prefer keep endpoints = endpoints := by
  simp [prefer, none]

theorem prefer_of_some (some : endpoints.filter keep ≠ []) :
    prefer keep endpoints = endpoints.filter keep := by
  simp [prefer, some]

@[simp]
theorem prefer_nothing : prefer (fun _ => false) endpoints = endpoints :=
  prefer_of_none (by simp)

end Prefer

section Tiers

variable (keep first second : Endpoint → Bool) (endpoints : List Endpoint)

def tier (first second : Endpoint → Bool) (e : Endpoint) : Nat :=
  if first e then 2 else if second e then 1 else 0

theorem prefer_eq_best : prefer keep endpoints = best (fun e => (keep e).toNat) endpoints := by
  by_cases found : endpoints.filter keep = []
  · have none : ∀ e ∈ endpoints, (keep e).toNat = 0 := by
      simpa [List.filter_eq_nil_iff] using found
    rw [prefer_of_none found, best_congr none, best_const]
  · have reached : ∃ e ∈ endpoints, (keep e).toNat = 1 := by
      simpa [List.filter_eq_nil_iff] using found
    rw [prefer_of_some found, best_eq_filter (fun e => (keep e).toNat_le) reached]
    simp

theorem tiers_eq_best :
    (if (endpoints.filter first).isEmpty then prefer second endpoints else endpoints.filter first) =
      best (tier first second) endpoints := by
  by_cases found : endpoints.filter first = []
  · have lower : ∀ e ∈ endpoints, tier first second e = (second e).toNat := by
      intro e mem
      have none : first e = false := by simpa using List.filter_eq_nil_iff.1 found e mem
      cases other : second e <;> simp [tier, none, other]
    rw [if_pos (by simpa using found), prefer_eq_best, best_congr lower]
  · have atTop (e : Endpoint) : tier first second e = 2 ↔ first e := by
      cases preferred : first e <;> cases other : second e <;> simp [tier, preferred, other]
    have bound (e : Endpoint) : tier first second e ≤ 2 := by
      unfold tier
      split_ifs <;> omega
    have reached : ∃ e ∈ endpoints, tier first second e = 2 := by
      simpa [atTop, List.filter_eq_nil_iff] using found
    rw [if_neg (by simpa using found), best_eq_filter bound reached]
    simp [atTop]

end Tiers

namespace Context

def isInUnit (c : Context) (e : Endpoint) : Bool := c.unit?.any (fun unit => e.unit? == some unit)

def staysLocal (c : Context) : Bool := c.unit?.any (fun unit => c.location.unit == some unit)

-- The local cell counts only as long as a call stays in the local unit.
def isInCell (c : Context) (e : Endpoint) : Bool :=
  c.staysLocal && c.location.cell.any (fun cell => e.cell? == some cell)

def isInLane (c : Context) (e : Endpoint) : Bool := c.lane?.any (fun lane => e.lane? == some lane)

def isInZone (c : Context) (e : Endpoint) : Bool :=
  c.location.zone.any (fun zone => e.zone? == some zone)

def isInRegion (c : Context) (e : Endpoint) : Bool :=
  c.location.region.any (fun region => e.region? == some region)

def rank (c : Context) (e : Endpoint) : Nat ×ₗ Nat ×ₗ Nat ×ₗ Nat :=
  toLex ((c.isInUnit e).toNat, toLex ((c.isInCell e).toNat,
    toLex (tier c.isInLane isBaseline e, tier c.isInZone c.isInRegion e)))

end Context

section Filters

variable (c : Context) (endpoints : List Endpoint)

theorem live_eq_prefer : live c endpoints = prefer c.isInCell (prefer c.isInUnit endpoints) := by
  unfold live Context.isInCell Context.isInUnit Context.staysLocal
  cases c.unit? with
  | none => simp
  | some unit =>
    cases c.location.cell with
    | none => simp
    | some cell => by_cases stays : c.location.unit == some unit <;> simp [stays]

theorem lane_eq_best : lane c endpoints = best (tier c.isInLane isBaseline) endpoints := by
  rw [← tiers_eq_best]
  unfold lane Context.isInLane
  cases c.lane? <;> simp

theorem zone_eq_best : zone c endpoints = best (tier c.isInZone c.isInRegion) endpoints := by
  rw [← tiers_eq_best]
  unfold zone Context.isInZone Context.isInRegion
  cases c.location.zone <;> cases c.location.region <;> simp

end Filters

end Governance.Routing
