import Mathlib.Order.MinMax
import Governance.Endpoint.Weight
import Governance.Proofs.Words

set_option autoImplicit false

namespace Governance.Endpoint

open Governance.Words

def warmupLength? (e : Endpoint) : Option UInt64 := (e.label? "warmup").bind Text.uint64?

def grown (weight uptime length : Nat) : Nat :=
  if length ≤ uptime then weight else max 1 (weight * uptime / length)

-- The part of a weight computed in words: the product in 128 bits, the quotient brought back to 32
-- and kept between one and the whole weight.
def partInWords? (weight uptime length : Nat) : Option Nat := do
  let product ← fits? 128 (weight * uptime)
  let part ← over? product length
  let narrow ← fits? 32 part
  clamp? 1 weight narrow

structure GrowsWarm (e : Endpoint) (r : Request) : Prop where
  grows : ∀ earlier later, earlier ≤ later → e.weightAt r earlier ≤ e.weightAt r later
  le_full : ∀ now, e.weightAt r now ≤ e.fullWeight r
  eq_zero_iff : ∀ now, e.weightAt r now = 0 ↔ e.fullWeight r = 0
  without : e.timestamp? = none ∨ e.warmupLength? = none ∨ e.warmupLength? = some 0 →
    ∀ now, e.weightAt r now = e.fullWeight r
  warm : ∀ started length now, e.timestamp? = some started → e.warmupLength? = some length →
    length.toNat ≤ now.toNat - started.toNat → e.weightAt r now = e.fullWeight r
  warming : ∀ started length now, e.timestamp? = some started → e.warmupLength? = some length →
    now.toNat - started.toNat < length.toNat → e.fullWeight r ≠ 0 →
    (e.weightAt r now).toNat =
      max 1 ((e.fullWeight r).toNat * (now.toNat - started.toNat) / length.toNat) ∧
    partInWords? (e.fullWeight r).toNat (now.toNat - started.toNat) length.toNat =
      some (e.weightAt r now).toNat

section Grown

variable {weight uptime length : Nat}

theorem part_le (before : uptime < length) : weight * uptime / length ≤ weight := by
  apply Nat.div_le_of_le_mul
  rw [Nat.mul_comm length]
  exact Nat.mul_le_mul_left weight before.le

theorem grown_of_lt (before : uptime < length) :
    grown weight uptime length = max 1 (weight * uptime / length) := if_neg (by omega)

theorem grown_le (positive : 0 < weight) : grown weight uptime length ≤ weight := by
  unfold grown
  split
  · exact Nat.le_refl weight
  · exact max_le positive (part_le (by omega))

theorem grown_pos (positive : 0 < weight) : 0 < grown weight uptime length := by
  unfold grown
  split <;> omega

theorem grown_mono (positive : 0 < weight) {later : Nat} (order : uptime ≤ later) :
    grown weight uptime length ≤ grown weight later length := by
  by_cases warm : length ≤ later
  · have whole : grown weight later length = weight := if_pos warm
    rw [whole]
    exact grown_le positive
  · have part := Nat.div_le_div_right (c := length) (Nat.mul_le_mul_left weight order)
    rw [grown_of_lt (by omega), grown_of_lt (by omega)]
    exact max_le_max_left 1 part

theorem partInWords?_eq (positive : 0 < weight) (narrow : weight < 2 ^ 32) (wide : length < 2 ^ 64)
    (before : uptime < length) :
    partInWords? weight uptime length = some (grown weight uptime length) := by
  have part : weight * uptime / length ≤ weight := part_le before
  have product : weight * uptime < 2 ^ 32 * 2 ^ 64 :=
    Nat.mul_lt_mul'' narrow (before.trans wide)
  rw [partInWords?, fits?_of_lt (by omega), grown_of_lt before]
  simp [over?_of_ne (Nat.ne_zero_of_lt before), fits?_of_lt (Nat.lt_of_le_of_lt part narrow),
    clamp?_of_le positive part]

end Grown

section Weight

variable {e : Endpoint} {r : Request}

theorem warmup_eq (e : Endpoint) : e.warmup = e.warmupLength?.getD 0 := rfl

theorem weightAt_of_still (still : e.timestamp? = none ∨ e.warmup = 0 ∨ e.fullWeight r = 0)
    (now : Millis) : e.weightAt r now = e.fullWeight r := by
  unfold weightAt
  rcases still with untold | zero | weightless
  · simp only [untold]
  · simp only [zero]
    split <;> simp
  · simp only [weightless]
    split <;> simp

theorem toNat_weightAt {started : UInt64} (starts : e.timestamp? = some started)
    (lasts : e.warmup ≠ 0) (weighty : e.fullWeight r ≠ 0) (now : Millis) :
    (e.weightAt r now).toNat =
      grown (e.fullWeight r).toNat (now.toNat - started.toNat) e.warmup.toNat := by
  have uptime := Millis.toNat_since now started
  by_cases warm : e.warmup ≤ now.since started
  · have whole := UInt64.le_iff_toNat_le.1 warm
    simp only [weightAt, starts]
    rw [if_pos (by simp [warm]), grown, if_pos (by omega)]
  · have before : now.toNat - started.toNat < e.warmup.toNat := by
      rw [← uptime]
      exact UInt64.lt_iff_toNat_lt.1 (UInt64.not_le.1 warm)
    have positive : 0 < (e.fullWeight r).toNat := UInt32.pos_iff_ne_zero.2 weighty
    have bound : grown (e.fullWeight r).toNat (now.toNat - started.toNat) e.warmup.toNat ≤
        (e.fullWeight r).toNat := grown_le positive
    have narrow := (e.fullWeight r).toNat_lt
    simp only [weightAt, starts]
    rw [if_neg (by simp [warm, lasts, weighty]), warming, uptime, ← grown_of_lt before]
    exact UInt32.toNat_ofNat_of_lt' (by simp only [UInt32.size]; omega)

theorem weightAt_cases (e : Endpoint) (r : Request) :
    (∀ now, e.weightAt r now = e.fullWeight r) ∨
      0 < (e.fullWeight r).toNat ∧ ∃ started : UInt64, ∀ now,
        (e.weightAt r now).toNat =
          grown (e.fullWeight r).toNat (now.toNat - started.toNat) e.warmup.toNat := by
  by_cases still : e.timestamp? = none ∨ e.warmup = 0 ∨ e.fullWeight r = 0
  · exact .inl (weightAt_of_still still)
  · obtain ⟨starts, lasts, weighty⟩ : e.timestamp? ≠ none ∧ e.warmup ≠ 0 ∧ e.fullWeight r ≠ 0 := by
      simpa using still
    obtain ⟨started, starts⟩ := Option.ne_none_iff_exists'.1 starts
    exact .inr ⟨UInt32.pos_iff_ne_zero.2 weighty, started, toNat_weightAt starts lasts weighty⟩

theorem weightAt_mono (e : Endpoint) (r : Request) {earlier later : Millis}
    (order : earlier ≤ later) : e.weightAt r earlier ≤ e.weightAt r later := by
  rw [UInt32.le_iff_toNat_le]
  obtain same | ⟨positive, started, grows⟩ := e.weightAt_cases r
  · rw [same, same]
  · rw [grows, grows]
    exact grown_mono positive (Nat.sub_le_sub_right (UInt64.le_iff_toNat_le.1 order) _)

theorem weightAt_le (e : Endpoint) (r : Request) (now : Millis) :
    e.weightAt r now ≤ e.fullWeight r := by
  rw [UInt32.le_iff_toNat_le]
  obtain same | ⟨positive, started, grows⟩ := e.weightAt_cases r
  · rw [same]
  · rw [grows]
    exact grown_le positive

theorem weightAt_eq_zero_iff (e : Endpoint) (r : Request) (now : Millis) :
    e.weightAt r now = 0 ↔ e.fullWeight r = 0 := by
  rw [← UInt32.toNat_inj, ← UInt32.toNat_inj, UInt32.toNat_zero]
  obtain same | ⟨positive, started, grows⟩ := e.weightAt_cases r
  · rw [same]
  · have counts : 0 < grown (e.fullWeight r).toNat (now.toNat - started.toNat) e.warmup.toNat :=
      grown_pos positive
    rw [grows]
    omega

theorem weightAt_of_without
    (without : e.timestamp? = none ∨ e.warmupLength? = none ∨ e.warmupLength? = some 0)
    (now : Millis) : e.weightAt r now = e.fullWeight r := by
  rcases without with untold | unknown | zero
  · exact weightAt_of_still (.inl untold) now
  · exact weightAt_of_still (.inr (.inl (by rw [warmup_eq, unknown]; rfl))) now
  · exact weightAt_of_still (.inr (.inl (by rw [warmup_eq, zero]; rfl))) now

section Length

variable {started length : UInt64} {now : Millis} (starts : e.timestamp? = some started)
  (lasts : e.warmupLength? = some length)
include starts lasts

theorem weightAt_of_warm (passed : length.toNat ≤ now.toNat - started.toNat) :
    e.weightAt r now = e.fullWeight r := by
  obtain rfl : e.warmup = length := by rw [warmup_eq, lasts]; rfl
  by_cases still : e.warmup = 0 ∨ e.fullWeight r = 0
  · exact weightAt_of_still (.inr still) now
  · obtain ⟨lasts, weighty⟩ := not_or.1 still
    rw [← UInt32.toNat_inj, toNat_weightAt starts lasts weighty, grown, if_pos passed]

theorem toNat_weightAt_of_warming (before : now.toNat - started.toNat < length.toNat)
    (weighty : e.fullWeight r ≠ 0) :
    (e.weightAt r now).toNat =
      grown (e.fullWeight r).toNat (now.toNat - started.toNat) length.toNat := by
  obtain rfl : e.warmup = length := by rw [warmup_eq, lasts]; rfl
  have lasts : e.warmup ≠ 0 := by
    intro zero
    rw [zero, UInt64.toNat_zero] at before
    omega
  exact toNat_weightAt starts lasts weighty now

end Length

theorem weightAt_growsWarm (e : Endpoint) (r : Request) : e.GrowsWarm r where
  grows _ _ := e.weightAt_mono r
  le_full := e.weightAt_le r
  eq_zero_iff := e.weightAt_eq_zero_iff r
  without := weightAt_of_without
  warm _ _ _ := weightAt_of_warm
  warming := by
    intro started length now starts lasts before weighty
    have positive : 0 < (e.fullWeight r).toNat := UInt32.pos_iff_ne_zero.2 weighty
    rw [toNat_weightAt_of_warming starts lasts before weighty]
    exact ⟨grown_of_lt before,
      partInWords?_eq positive (e.fullWeight r).toNat_lt length.toNat_lt before⟩

example :
    let e : Endpoint := ⟨"h", 1, .healthy, .ofList [("timestamp", "1000"), ("warmup", "10000")]⟩
    [0, 1000, 6000, 11000].map (e.weightAt (.plain "svc" none)) = [1, 1, 50, 100] := by decide

end Weight

end Governance.Endpoint
