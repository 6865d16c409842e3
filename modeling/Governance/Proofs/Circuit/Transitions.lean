import Governance.Circuit.Breaker

set_option autoImplicit false

namespace Governance.Circuit.Breaker

def OffersProbes (b : Breaker) (now : Millis) : Prop :=
  b.state = .halfOpen ∨ b.state = .opened ∧ ¬ b.isRecovering now

inductive Admits (b : Breaker) (now : Millis) : Admission → Breaker → Prop where
  | call : b.state = .closed → Admits b now .call b
  | recovering : b.state = .opened → b.isRecovering now → Admits b now .refused b
  | probe : b.OffersProbes now → b.hasSlot →
      Admits b now .probe { b with state := .halfOpen, probes := b.probes + 1 }
  | full : b.OffersProbes now → ¬ b.hasSlot → Admits b now .refused { b with state := .halfOpen }

theorem takeSlot_admits (b : Breaker) (now : Millis) (offers : b.OffersProbes now) :
    Admits b now (takeSlot { b with state := .halfOpen }).1
      (takeSlot { b with state := .halfOpen }).2 := by
  have same : hasSlot { b with state := .halfOpen } = b.hasSlot := rfl
  by_cases slot : b.hasSlot
  · simpa [takeSlot, same, slot] using Admits.probe offers slot
  · simpa [takeSlot, same, slot] using Admits.full offers slot

theorem tryAcquire_admits (b : Breaker) (now : Millis) :
    Admits b now (b.tryAcquire now).1 (b.tryAcquire now).2 := by
  cases state : b.state with
  | closed => simpa [tryAcquire, state] using Admits.call state
  | opened =>
    by_cases recovering : b.isRecovering now
    · simpa [tryAcquire, state, recovering] using Admits.recovering state recovering
    · simpa [tryAcquire, state, recovering] using
        takeSlot_admits b now (.inr ⟨state, recovering⟩)
  | halfOpen =>
    have same : { b with state := .halfOpen } = b := by cases b; simp_all
    simpa [tryAcquire, state, same] using takeSlot_admits b now (.inl state)

namespace Admits

variable {b after : Breaker} {now : Millis} {admission : Admission}

theorem config_eq (admits : Admits b now admission after) : after.config = b.config := by
  cases admits <;> rfl

theorem probes_eq (admits : Admits b now admission after) :
    after.probes = b.probes + if admission = .probe then 1 else 0 := by
  cases admits <;> simp

theorem hasSlot (admits : Admits b now .probe after) : b.hasSlot := by
  cases admits
  assumption

end Admits

theorem OffersProbes.state_ne_closed {b : Breaker} {now : Millis} (offers : b.OffersProbes now) :
    b.state ≠ .closed := by
  rcases offers with half | ⟨opened, -⟩
  · simp [half]
  · simp [opened]

theorem admission_ne_refused_iff (b : Breaker) (now : Millis) :
    (b.tryAcquire now).1 ≠ .refused ↔ b.state = .closed ∨ b.OffersProbes now ∧ b.hasSlot := by
  have admits := tryAcquire_admits b now
  generalize (b.tryAcquire now).1 = admission at admits ⊢
  generalize (b.tryAcquire now).2 = after at admits
  cases admits with
  | call closed => simp [closed]
  | recovering opened recovering => simp [OffersProbes, opened, recovering]
  | probe offers slot => simp [offers, slot]
  | full offers full => simp [full, offers.state_ne_closed]

@[simp]
theorem release_config (b : Breaker) (probe : Bool) : (b.release probe).config = b.config := by
  cases probe <;> rfl

@[simp]
theorem release_state (b : Breaker) (probe : Bool) : (b.release probe).state = b.state := by
  cases probe <;> rfl

@[simp]
theorem release_failures (b : Breaker) (probe : Bool) :
    (b.release probe).failures = b.failures := by
  cases probe <;> rfl

@[simp]
theorem release_openedAt (b : Breaker) (probe : Bool) :
    (b.release probe).openedAt = b.openedAt := by
  cases probe <;> rfl

@[simp]
theorem settle_config (b : Breaker) (probe : Bool) (outcome : Outcome) (now : Millis) :
    (b.settle probe outcome now).config = b.config := by
  cases outcome <;> simp only [settle, onSuccess, onFailure, reset, trip]
  all_goals repeat' split
  all_goals simp

def Outcome.verdict : Outcome → State
  | .success => .closed
  | .failure => .opened
  | .dropped => .halfOpen

theorem settle_state_of_halfOpen (b : Breaker) (probe : Bool) (outcome : Outcome) (now : Millis)
    (half : b.state = .halfOpen) : (b.settle probe outcome now).state = outcome.verdict := by
  cases outcome <;> simp [settle, onSuccess, onFailure, reset, trip, half, Outcome.verdict]

theorem settle_state_ne_halfOpen (b : Breaker) (probe : Bool) (outcome : Outcome) (now : Millis)
    (changed : (b.settle probe outcome now).state ≠ b.state) :
    (b.settle probe outcome now).state ≠ .halfOpen := by
  cases state : b.state with
  | halfOpen =>
    rw [settle_state_of_halfOpen b probe outcome now state] at changed ⊢
    cases outcome <;> simp_all [Outcome.verdict]
  | closed | opened =>
    cases outcome <;> simp only [settle, onSuccess, onFailure, trip, release_state, state] at changed ⊢
    all_goals repeat' split
    all_goals simp_all

theorem settle_of_opened {b : Breaker} (opened : b.state = .opened) (probe : Bool)
    (outcome : Outcome) (now : Millis) :
    (b.settle probe outcome now).state = .opened ∧
      (b.settle probe outcome now).openedAt = b.openedAt := by
  cases outcome <;> simp [settle, onSuccess, onFailure, opened]

theorem settle_openedAt {b : Breaker} {probe : Bool} {outcome : Outcome} {now : Millis}
    (before : b.state ≠ .opened) (after : (b.settle probe outcome now).state = .opened) :
    (b.settle probe outcome now).openedAt = now := by
  cases state : b.state with
  | opened => exact absurd state before
  | closed | halfOpen =>
    cases outcome <;>
      simp only [settle, onSuccess, onFailure, reset, release_state, state] at after ⊢
    all_goals repeat' split at after
    all_goals simp_all [trip]

/-- Giving a permit back either leaves the state as it is, and frees the slot of a probe, or ends
the state, and clears the slots. -/
theorem settle_probes (b : Breaker) (probe : Bool) (outcome : Outcome) (now : Millis) :
    (b.settle probe outcome now).probes =
      if (b.settle probe outcome now).state = b.state then (b.release probe).probes else 0 := by
  cases state : b.state <;> cases outcome <;>
    simp only [settle, onSuccess, onFailure, reset, trip, release_state, release_config, state]
  all_goals repeat' split
  all_goals simp_all

end Governance.Circuit.Breaker
