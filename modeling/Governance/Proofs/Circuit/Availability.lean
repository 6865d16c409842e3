import Governance.Proofs.Circuit.Probes
import Governance.Proofs.Circuit.Textbook

set_option autoImplicit false

namespace Governance.Circuit.InUse

-- The breaker has recovered, but late probes have taken the count of its slots below zero and so to
-- its limit.
def Overdrawn (u : InUse) : Prop :=
  u.breaker.state = .opened ∧ ¬ u.breaker.isRecovering u.clock ∧
    u.breaker.config.halfOpenMaxCalls ≤ 0 - UInt64.ofNat u.late

instance (u : InUse) : Decidable u.Overdrawn := inferInstanceAs (Decidable (_ ∧ _ ∧ _))

def SaysWhatItDoes (u : InUse) : Prop := u.breaker.isAvailable u.clock = true ↔ u.Admits

def RefusesWithoutEffect (u : InUse) : Prop :=
  ¬ u.Admits → (u.breaker.tryAcquire u.clock).2 = u.breaker

section Overdrawn

variable {u : InUse}

-- An open breaker has no probes of its own out; what its count shows are the late ones.
theorem hasSlot_iff_of_opened (sound : Accounted u) (opened : u.breaker.state = .opened) :
    u.breaker.hasSlot = true ↔ 0 - UInt64.ofNat u.late < u.breaker.config.halfOpenMaxCalls := by
  have slots := sound.slots
  have count : u.breaker.probes = 0 - UInt64.ofNat u.late := by
    rw [probesOut_eq_zero u (by simp [opened])] at slots
    grind
  simp [Breaker.hasSlot, count]

theorem overdrawn_iff (sound : Accounted u) :
    u.Overdrawn ↔ u.breaker.state = .opened ∧ ¬ u.breaker.isRecovering u.clock ∧
      ¬ u.breaker.hasSlot := by
  refine and_congr_right fun opened => and_congr_right fun _ => ?_
  rw [hasSlot_iff_of_opened sound opened, UInt64.not_lt]

theorem saysWhatItDoes_of_not_overdrawn (sound : Accounted u) (inOrder : ¬ u.Overdrawn) :
    u.SaysWhatItDoes := by
  apply Breaker.isAvailable_iff
  intro opened recovered
  by_contra full
  exact inOrder ((overdrawn_iff sound).2 ⟨opened, recovered, full⟩)

theorem refusesWithoutEffect_of_not_overdrawn (sound : Accounted u) (inOrder : ¬ u.Overdrawn) :
    u.RefusesWithoutEffect := by
  intro refused
  have admits := u.breaker.tryAcquire_admits u.clock
  rw [not_not.1 refused] at admits
  generalize (u.breaker.tryAcquire u.clock).2 = after at admits
  cases admits with
  | recovering => rfl
  | full offers full =>
    rcases offers with half | ⟨opened, recovered⟩
    · rw [← half]
    · exact absurd ((overdrawn_iff sound).2 ⟨opened, recovered, full⟩) inOrder

theorem overdrawn_misleads (sound : Accounted u) (overdrawn : u.Overdrawn) :
    u.breaker.isAvailable u.clock = true ∧ ¬ u.Admits ∧
      (u.breaker.tryAcquire u.clock).2 = { u.breaker with state := .halfOpen } := by
  obtain ⟨opened, recovered, full⟩ := (overdrawn_iff sound).1 overdrawn
  refine ⟨by simp [Breaker.isAvailable, opened, recovered], ?_, ?_⟩
  · rw [Admits, Breaker.admission_ne_refused_iff]
    simp [opened, full]
  · have same : Breaker.hasSlot { u.breaker with state := .halfOpen } = u.breaker.hasSlot := rfl
    simp [Breaker.tryAcquire, opened, recovered, Breaker.takeSlot, same, full]

end Overdrawn

/-- In whatever state a breaker can get, it says what it does and refuses without effect exactly if
it is not overdrawn. Where it is, it calls itself available, refuses and is half-open after that. -/
theorem availability_agrees_iff (key : String) (config : Config) (moves : List Move) :
    ((reached key config moves).SaysWhatItDoes ↔ ¬ (reached key config moves).Overdrawn) ∧
      ((reached key config moves).RefusesWithoutEffect ↔
        ¬ (reached key config moves).Overdrawn) ∧
      ((reached key config moves).Overdrawn →
        (reached key config moves).breaker.isAvailable (reached key config moves).clock = true ∧
          ¬ (reached key config moves).Admits ∧
          ((reached key config moves).breaker.tryAcquire (reached key config moves).clock).2 =
            { (reached key config moves).breaker with state := .halfOpen }) := by
  have sound := reached_accounted key config moves
  generalize reached key config moves = u at sound ⊢
  refine ⟨⟨fun honest overdrawn => ?_, saysWhatItDoes_of_not_overdrawn sound⟩,
    ⟨fun keeps overdrawn => ?_, refusesWithoutEffect_of_not_overdrawn sound⟩, overdrawn_misleads sound⟩
  · obtain ⟨available, refused, -⟩ := overdrawn_misleads sound overdrawn
    exact refused (honest.1 available)
  · obtain ⟨-, refused, half⟩ := overdrawn_misleads sound overdrawn
    have changed := congrArg Breaker.state (half.symm.trans (keeps refused))
    rw [overdrawn.1] at changed
    cases changed

def oneProbe : Config :=
  { twoProbes with halfOpenMaxCalls := 1, limit_ne := twoProbes.threshold_ne }

-- Of two calls one opens the breaker; the other reopens it while a probe is out, which is then
-- dropped, and the recovery runs out once more.
def slowPair : List Move :=
  [.acquire, .acquire, .giveBack 0 .failure, .setClock 10, .acquire, .giveBack 0 .failure,
    .giveBack 0 .dropped, .setClock 20]

theorem slowPair_misleads :
    (reached "svc@h:1" oneProbe slowPair).breaker.state = .opened ∧
      (reached "svc@h:1" oneProbe slowPair).breaker.isAvailable 20 = true ∧
      (reached "svc@h:1" oneProbe slowPair).clock = 20 ∧
      ((reached "svc@h:1" oneProbe slowPair).breaker.tryAcquire 20).1 = .refused ∧
      ((reached "svc@h:1" oneProbe slowPair).breaker.tryAcquire 20).2.state = .halfOpen := by
  decide

end Governance.Circuit.InUse
