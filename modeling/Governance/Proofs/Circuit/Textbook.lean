import Governance.Proofs.Circuit.Transitions

/-!
The breaker of the textbooks: closed with a number of failures in a row, open since a reading of
the clock, or half-open. It knows nothing of slots, because it takes one call at a time.

A breaker looks like it (`Breaker.view`) as long as it is asked only while no call is out. Then no
slot is in use (`Idle`), or the only one out is that of the call that passed last (`Lent`).
-/

set_option autoImplicit false

namespace Governance.Circuit

-- What a textbook breaker goes by; the recovery is in whole milliseconds.
structure Terms where
  threshold : Nat
  recovery : Nat
  deriving DecidableEq, Repr

def Terms.ofPolicy (p : BreakerPolicy) : Terms :=
  ⟨(p.failureThreshold.getD 5).toNat, (p.recoveryTimeout.getD 30000).toNat⟩

inductive Textbook where
  | closed (failures : Nat)
  | opened (since : Nat)
  | halfOpen
  deriving DecidableEq, Repr

namespace Textbook

def answer (t : Terms) (now : Nat) : Textbook → Admission
  | .closed _ => .call
  | .opened since => if now - since < t.recovery then .refused else .probe
  | .halfOpen => .probe

def ask (t : Terms) (now : Nat) : Textbook → Textbook
  | .opened since => if now - since < t.recovery then .opened since else .halfOpen
  | .closed failures => .closed failures
  | .halfOpen => .halfOpen

-- An open machine has no call out that it could be told of.
def tell (t : Terms) (outcome : Breaker.Outcome) (now : Nat) : Textbook → Textbook
  | .closed failures =>
    match outcome with
    | .success => .closed 0
    | .failure => if t.threshold ≤ failures + 1 then .opened now else .closed (failures + 1)
    | .dropped => .closed failures
  | .halfOpen =>
    match outcome with
    | .success => .closed 0
    | .failure => .opened now
    | .dropped => .halfOpen
  | .opened since => .opened since

theorem answer_mono {t : Terms} {m : Textbook} {now later : Nat} (order : now ≤ later)
    (admits : m.answer t now ≠ .refused) : m.answer t later ≠ .refused := by
  cases m with
  | closed failures => simp [answer]
  | opened since =>
    have elapsed : ¬ now - since < t.recovery := fun recovering =>
      admits (by simp [answer, recovering])
    have stillOver : ¬ later - since < t.recovery := by omega
    simp [answer, stillOver]
  | halfOpen => simp [answer]

end Textbook

theorem Config.eq_of_make {threshold limit : UInt64} {recovery : Duration} {c : Config}
    (made : make threshold recovery limit = .ok c) :
    c.failureThreshold = threshold ∧ c.recoveryTimeout = recovery := by
  unfold make at made
  repeat' split at made
  all_goals cases made
  exact ⟨rfl, rfl⟩

theorem Config.zero_lt_threshold (c : Config) : 0 < c.failureThreshold :=
  UInt64.pos_iff_ne_zero.2 c.threshold_ne

namespace Breaker

def view (b : Breaker) : Textbook :=
  match b.state with
  | .closed => .closed b.failures.toNat
  | .opened => .opened b.openedAt.toNat
  | .halfOpen => .halfOpen

structure GoesBy (b : Breaker) (t : Terms) : Prop where
  threshold : b.config.failureThreshold.toNat = t.threshold
  recovery : b.recovery.toNat = t.recovery

theorem goesBy_of_ofPolicy {b : Breaker} {p : BreakerPolicy}
    (valid : Config.ofPolicy p = .ok b.config) : b.GoesBy (.ofPolicy p) := by
  obtain ⟨threshold, recovery⟩ := Config.eq_of_make valid
  constructor
  · rw [threshold]
    exact UInt32.toNat_toUInt64 _
  · rw [Breaker.recovery, recovery, Duration.clockMillis_ofMillis]
    rfl

theorem GoesBy.of_config_eq {b after : Breaker} {t : Terms} (goesBy : b.GoesBy t)
    (same : after.config = b.config) : after.GoesBy t := by
  constructor
  · rw [same, goesBy.threshold]
  · rw [Breaker.recovery, same]
    exact goesBy.recovery

theorem isRecovering_iff {b : Breaker} {t : Terms} (goesBy : b.GoesBy t) (now : Millis) :
    b.isRecovering now = true ↔ now.toNat - b.openedAt.toNat < t.recovery := by
  rw [isRecovering, decide_eq_true_eq, UInt64.lt_iff_toNat_lt, Millis.toNat_since, goesBy.recovery]

structure Idle (b : Breaker) : Prop where
  none_out : b.probes = 0
  below : b.state = .closed → b.failures < b.config.failureThreshold

structure Lent (b : Breaker) (probe : Bool) : Prop where
  state_eq : b.state = if probe then .halfOpen else .closed
  one_out : b.probes = if probe then 1 else 0
  below : b.state = .closed → b.failures < b.config.failureThreshold

theorem new_idle (key : String) (config : Config) : (new key config).Idle where
  none_out := rfl
  below _ := config.zero_lt_threshold

theorem reset_idle (b : Breaker) : b.reset.Idle where
  none_out := rfl
  below _ := b.config.zero_lt_threshold

theorem Idle.hasSlot {b : Breaker} (idle : b.Idle) : b.hasSlot := by
  rw [Breaker.hasSlot, idle.none_out, decide_eq_true_eq]
  exact UInt64.pos_iff_ne_zero.2 b.config.limit_ne

theorem Lent.opened_ne {b : Breaker} {probe : Bool} (lent : b.Lent probe) : b.state ≠ .opened := by
  rw [lent.state_eq]
  cases probe <;> simp

theorem isAvailable_iff {b : Breaker} {now : Millis}
    (free : b.state = .opened → ¬ b.isRecovering now → b.hasSlot) :
    b.isAvailable now = true ↔ (b.tryAcquire now).1 ≠ .refused := by
  rw [admission_ne_refused_iff]
  cases state : b.state with
  | closed => simp [isAvailable, state]
  | opened =>
    by_cases recovering : b.isRecovering now
    · simp [isAvailable, OffersProbes, state, recovering]
    · simp [isAvailable, OffersProbes, state, recovering, free state recovering]
  | halfOpen => simp [isAvailable, OffersProbes, state]

section Ask

variable {b after : Breaker} {t : Terms} {now : Millis} {admission : Admission}

theorem Admits.answer_eq (admits : Admits b now admission after) (idle : b.Idle)
    (goesBy : b.GoesBy t) : admission = b.view.answer t now.toNat := by
  cases admits with
  | call closed => simp [view, closed, Textbook.answer]
  | recovering opened recovering =>
    simp [view, opened, Textbook.answer, (isRecovering_iff goesBy now).1 recovering]
  | probe offers slot =>
    rcases offers with half | ⟨opened, elapsed⟩
    · simp [view, half, Textbook.answer]
    · rw [isRecovering_iff goesBy] at elapsed
      simp [view, opened, Textbook.answer, elapsed]
  | full offers full => exact absurd idle.hasSlot full

theorem Admits.view_eq (admits : Admits b now admission after) (goesBy : b.GoesBy t) :
    after.view = b.view.ask t now.toNat := by
  have half_of_offers (offers : b.OffersProbes now) : b.view.ask t now.toNat = .halfOpen := by
    rcases offers with half | ⟨opened, elapsed⟩
    · simp [view, half, Textbook.ask]
    · rw [isRecovering_iff goesBy] at elapsed
      simp [view, opened, Textbook.ask, elapsed]
  cases admits with
  | call closed => simp [view, closed, Textbook.ask]
  | recovering opened recovering =>
    simp [view, opened, Textbook.ask, (isRecovering_iff goesBy now).1 recovering]
  | probe offers | full offers =>
    rw [half_of_offers offers]
    rfl

theorem Admits.eq_of_refused (admits : Admits b now .refused after) (idle : b.Idle) :
    after = b := by
  cases admits with
  | recovering => rfl
  | full offers full => exact absurd idle.hasSlot full

theorem Admits.lent (admits : Admits b now admission after) (idle : b.Idle)
    (passes : admission ≠ .refused) : after.Lent (admission == .probe) := by
  cases admits with
  | call closed => exact ⟨by simp [closed], by simp [idle.none_out], idle.below⟩
  | recovering | full => exact absurd rfl passes
  | probe => exact ⟨by simp, by simp [idle.none_out], nofun⟩

theorem Admits.failures_eq (admits : Admits b now admission after) :
    after.failures = b.failures := by
  cases admits <;> rfl

end Ask

section Tell

variable {b : Breaker} {t : Terms} {probe : Bool}

theorem Lent.release_probes (lent : b.Lent probe) : (b.release probe).probes = 0 := by
  have out := lent.one_out
  cases probe <;> simp_all [release]

theorem toNat_failures_succ (below : b.failures < b.config.failureThreshold) :
    (b.failures + 1).toNat = b.failures.toNat + 1 := by
  have bound := b.config.failureThreshold.toNat_lt
  rw [UInt64.lt_iff_toNat_lt] at below
  rw [UInt64.toNat_add, UInt64.toNat_one, Nat.mod_eq_of_lt (by omega)]

theorem settle_call_failure (closed : b.state = .closed) (now : Millis) :
    b.settle false .failure now =
      if b.config.failureThreshold ≤ b.failures + 1 then
        { b with failures := b.failures + 1 }.trip now
      else { b with failures := b.failures + 1 } := by
  change b.onFailure now = _
  simp only [onFailure, closed]

theorem Lent.settle_idle (lent : b.Lent probe) (outcome : Outcome) (now : Millis) :
    (b.settle probe outcome now).Idle where
  none_out := by rw [settle_probes, lent.release_probes, ite_self]
  below after := by
    have positive := b.config.zero_lt_threshold
    cases probe with
    | true =>
      have half : b.state = .halfOpen := lent.state_eq
      rw [settle_state_of_halfOpen b true outcome now half] at after
      cases outcome with
      | success => simpa [settle, release, onSuccess, reset, half] using positive
      | failure | dropped => cases after
    | false =>
      have closed : b.state = .closed := lent.state_eq
      cases outcome with
      | success => simpa [settle, release, onSuccess, closed] using positive
      | dropped => exact lent.below closed
      | failure =>
        rw [settle_call_failure closed] at after ⊢
        by_cases trips : b.config.failureThreshold ≤ b.failures + 1
        · simp [trips, trip] at after
        · rw [if_neg trips]
          exact UInt64.not_le.1 trips

theorem Lent.settle_view (lent : b.Lent probe) (goesBy : b.GoesBy t) (outcome : Outcome)
    (now : Millis) : (b.settle probe outcome now).view = b.view.tell t outcome now.toNat := by
  cases probe with
  | true =>
    have half : b.state = .halfOpen := lent.state_eq
    cases outcome <;>
      simp [settle, release, onSuccess, onFailure, reset, trip, view, half, Textbook.tell]
  | false =>
    have closed : b.state = .closed := lent.state_eq
    have next := toNat_failures_succ (lent.below closed)
    cases outcome with
    | success | dropped => simp [settle, release, onSuccess, view, closed, Textbook.tell]
    | failure =>
      have reaches : b.config.failureThreshold ≤ b.failures + 1 ↔
          t.threshold ≤ b.failures.toNat + 1 := by
        rw [UInt64.le_iff_toNat_le, next, goesBy.threshold]
      rw [settle_call_failure closed]
      by_cases trips : b.config.failureThreshold ≤ b.failures + 1
      · simp [trips, trip, view, closed, Textbook.tell, reaches.1 trips]
      · have stays : ¬ t.threshold ≤ b.failures.toNat + 1 := fun more => trips (reaches.2 more)
        simp [trips, view, closed, Textbook.tell, stays, next]

theorem Lent.settle_failures (lent : b.Lent probe) (outcome : Outcome) (now : Millis) :
    (b.settle probe outcome now).failures =
      match outcome with
      | .success => 0
      | .failure => b.failures + 1
      | .dropped => b.failures := by
  have state := lent.state_eq
  cases probe <;> cases outcome <;>
    simp [settle, release, onSuccess, onFailure, reset, trip, state]
  split <;> rfl

end Tell

end Breaker

end Governance.Circuit
