import Governance.Proofs.Circuit.Probes
import Governance.Proofs.Circuit.Textbook

set_option autoImplicit false

namespace Governance.Circuit

def Config.clockTimeout (c : Config) : Duration := .ofMillis c.recoveryTimeout.clockMillis.toNat

namespace InUse

def Trips (u : InUse) (move : Move) : Prop :=
  u.breaker.state ≠ .opened ∧ (u.step move).breaker.state = .opened

def Early (u : InUse) (since : Millis) (wait : Duration) : Prop :=
  (Duration.ofMillis (u.clock.toNat - since.toNat)).nanos < wait.nanos

instance (u : InUse) (move : Move) : Decidable (u.Trips move) :=
  inferInstanceAs (Decidable (_ ∧ _))

instance (u : InUse) (since : Millis) (wait : Duration) : Decidable (u.Early since wait) :=
  inferInstanceAs (Decidable (_ < _))

def AsksEarly (u : InUse) (since : Millis) (wait : Duration) : List Move → Prop
  | [] => True
  | move :: rest =>
    (move = .acquire → u.Early since wait) ∧ (u.step move).AsksEarly since wait rest

def RunsForward (u : InUse) : List Move → Prop
  | [] => True
  | move :: rest => u.clock ≤ (u.step move).clock ∧ (u.step move).RunsForward rest

-- Once a breaker of this setting has tripped, it admits nobody until it is reset or asked when the
-- wait is over, wherever the clock is set.
def TurnsAway (config : Config) (wait : Duration) : Prop :=
  ∀ key before trip later, (reached key config before).Trips trip → .reset ∉ later →
    (reached key config (before ++ [trip])).AsksEarly (reached key config before).clock wait later →
    ((reached key config (before ++ [trip])).run later).Early (reached key config before).clock wait →
    ¬ ((reached key config (before ++ [trip])).run later).Admits

def StaysShut (config : Config) (wait : Duration) : Prop :=
  ∀ key before trip later, (reached key config before).Trips trip → .reset ∉ later →
    (reached key config (before ++ [trip])).RunsForward later →
    ((reached key config (before ++ [trip])).run later).Early (reached key config before).clock wait →
    ¬ ((reached key config (before ++ [trip])).run later).Admits

section Waits

variable {u later : InUse} {since : Millis} {wait longer : Duration} {config : Config}

theorem Early.mono (early : u.Early since wait) (order : wait.nanos ≤ longer.nanos) :
    u.Early since longer :=
  Nat.lt_of_lt_of_le early order

theorem Early.of_clock_le (early : later.Early since wait) (order : u.clock ≤ later.clock) :
    u.Early since wait := by
  have less := Nat.sub_le_sub_right (UInt64.le_iff_toNat_le.1 order) since.toNat
  exact Nat.lt_of_le_of_lt (Nat.mul_le_mul_right _ less) early

theorem RunsForward.clock_le {moves : List Move} (forward : u.RunsForward moves) :
    u.clock ≤ (u.run moves).clock := by
  induction moves generalizing u with
  | nil => exact UInt64.le_refl _
  | cons move rest ih => exact UInt64.le_trans forward.1 (ih forward.2)

theorem RunsForward.asksEarly {moves : List Move} (forward : u.RunsForward moves)
    (early : (u.run moves).Early since wait) : u.AsksEarly since wait moves := by
  induction moves generalizing u with
  | nil => trivial
  | cons move rest ih => exact ⟨fun _ => early.of_clock_le forward.clock_le, ih forward.2 early⟩

theorem AsksEarly.mono {moves : List Move} (asked : u.AsksEarly since wait moves)
    (order : wait.nanos ≤ longer.nanos) : u.AsksEarly since longer moves := by
  induction moves generalizing u with
  | nil => trivial
  | cons move rest ih => exact ⟨fun asks => (asked.1 asks).mono order, ih asked.2⟩

theorem TurnsAway.of_le (turnsAway : TurnsAway config longer) (order : wait.nanos ≤ longer.nanos) :
    TurnsAway config wait :=
  fun key before trip moves trips kept asked early =>
    turnsAway key before trip moves trips kept (asked.mono order) (early.mono order)

theorem TurnsAway.staysShut (turnsAway : TurnsAway config wait) : StaysShut config wait :=
  fun key before trip moves trips kept forward early =>
    turnsAway key before trip moves trips kept (forward.asksEarly early) early

end Waits

structure OpenSince (u : InUse) (config : Config) (since : Millis) : Prop where
  config_eq : u.breaker.config = config
  opened : u.breaker.state = .opened
  openedAt_eq : u.breaker.openedAt = since

section OpenSince

variable {u : InUse} {config : Config} {since : Millis}

theorem openSince_of_trips {move : Move} (trips : u.Trips move) (same : u.breaker.config = config) :
    (u.step move).OpenSince config u.clock := by
  obtain ⟨before, after⟩ := trips
  refine ⟨(step_config u move).trans same, after, ?_⟩
  cases move with
  | acquire =>
    obtain ⟨admission, admitting, admits, acquired⟩ := u.acquire_answers
    rw [step, acquired] at after
    cases admits with
    | call | recovering => exact absurd after before
    | probe | full => cases after
  | giveBack index outcome =>
    simp only [step, giveBack] at after ⊢
    split
    · rename_i none
      rw [none] at after
      exact absurd after before
    · rename_i p held
      rw [held] at after
      exact Breaker.settle_openedAt before after
  | reset => cases after
  | setClock reading => exact absurd after before

theorem OpenSince.isRecovering (shut : u.OpenSince config since)
    (early : u.Early since config.clockTimeout) : u.breaker.isRecovering u.clock := by
  rw [Early, Config.clockTimeout] at early
  simp only [Duration.ofMillis] at early
  rw [Breaker.isRecovering, decide_eq_true_eq, UInt64.lt_iff_toNat_lt, Millis.toNat_since,
    Breaker.recovery, shut.config_eq, shut.openedAt_eq]
  omega

theorem OpenSince.not_admits (shut : u.OpenSince config since)
    (early : u.Early since config.clockTimeout) : ¬ u.Admits := by
  rw [Admits, Breaker.admission_ne_refused_iff]
  simp [Breaker.OffersProbes, shut.opened, shut.isRecovering early]

theorem OpenSince.step {move : Move} (shut : u.OpenSince config since) (kept : move ≠ .reset)
    (early : move = .acquire → u.Early since config.clockTimeout) :
    (u.step move).OpenSince config since := by
  have stays : (u.step move).breaker.state = .opened ∧ (u.step move).breaker.openedAt = since := by
    cases move with
    | acquire =>
      obtain ⟨admission, after, admits, acquired⟩ := u.acquire_answers
      have recovering := shut.isRecovering (early rfl)
      rw [InUse.step, acquired]
      cases admits with
      | call closed => exact absurd (closed.symm.trans shut.opened) (by decide)
      | recovering => exact ⟨shut.opened, shut.openedAt_eq⟩
      | probe offers | full offers =>
        rcases offers with half | ⟨-, recovered⟩
        · exact absurd (half.symm.trans shut.opened) (by decide)
        · exact absurd recovering recovered
    | giveBack index outcome =>
      simp only [InUse.step, giveBack]
      split
      · exact ⟨shut.opened, shut.openedAt_eq⟩
      · obtain ⟨stillOpen, sameDate⟩ := Breaker.settle_of_opened shut.opened _ outcome u.clock
        exact ⟨stillOpen, sameDate.trans shut.openedAt_eq⟩
    | reset => exact absurd rfl kept
    | setClock reading => exact ⟨shut.opened, shut.openedAt_eq⟩
  exact ⟨(step_config u move).trans shut.config_eq, stays.1, stays.2⟩

theorem OpenSince.run {moves : List Move} (shut : u.OpenSince config since)
    (kept : .reset ∉ moves) (early : u.AsksEarly since config.clockTimeout moves) :
    (u.run moves).OpenSince config since := by
  induction moves generalizing u with
  | nil => exact shut
  | cons move rest ih =>
    have first := shut.step (List.ne_of_not_mem_cons kept).symm early.1
    exact ih first (List.not_mem_of_not_mem_cons kept) early.2

theorem turnsAway_clockTimeout (config : Config) : TurnsAway config config.clockTimeout := by
  intro key before trip later trips kept asked early
  rw [reached_concat] at asked early ⊢
  have shut := openSince_of_trips trips (reached_config key config before)
  exact (shut.run kept asked).not_admits early

end OpenSince

section Failing

def failing : Nat → List Move
  | 0 => []
  | n + 1 => failing n ++ [.acquire, .giveBack 0 .failure]

def counted (key : String) (config : Config) (n : Nat) : InUse :=
  { start key config with breaker := { Breaker.new key config with failures := .ofNat n } }

variable {key : String} {config : Config} {n : Nat}

-- Whether or not the failure opens the breaker, no late probe is counted.
theorem counted_fails :
    (counted key config n).acquire.giveBack 0 .failure =
      { counted key config n with
        breaker := (counted key config n).breaker.settle false .failure 0 } := by
  have none_late : (counted key config n).acquire.lateAfter ⟨false, 0⟩
      ((counted key config n).breaker.settle false .failure 0) = 0 := by
    unfold lateAfter
    split <;> rfl
  change { counted key config n with
    breaker := (counted key config n).breaker.settle false .failure 0
    out := []
    late := (counted key config n).acquire.lateAfter ⟨false, 0⟩
      ((counted key config n).breaker.settle false .failure 0) } = _
  rw [none_late]
  rfl

theorem settle_counted (below : n < config.failureThreshold.toNat) :
    (counted key config n).breaker.settle false .failure 0 =
      if config.failureThreshold.toNat ≤ n + 1 then (counted key config (n + 1)).breaker.trip 0
      else (counted key config (n + 1)).breaker := by
  have next : UInt64.ofNat n + 1 = UInt64.ofNat (n + 1) := (UInt64.ofNat_add n 1).symm
  have reaches : config.failureThreshold ≤ UInt64.ofNat (n + 1) ↔
      config.failureThreshold.toNat ≤ n + 1 := by
    have bound := config.failureThreshold.toNat_lt
    rw [UInt64.le_iff_toNat_le, UInt64.toNat_ofNat_of_lt' (by simp only [UInt64.size]; omega)]
  rw [Breaker.settle_call_failure rfl]
  simp only [counted, Breaker.new, next, reaches]

theorem reached_failing (below : n < config.failureThreshold.toNat) :
    reached key config (failing n) = counted key config n := by
  induction n with
  | zero => rfl
  | succ n ih =>
    have before : n < config.failureThreshold.toNat := by omega
    have settled := @settle_counted key config n before
    rw [if_neg (by omega)] at settled
    calc reached key config (failing (n + 1))
      _ = (reached key config (failing n)).acquire.giveBack 0 .failure := by
        simp [reached, run, failing, List.foldl_append, step]
      _ = counted key config (n + 1) := by
        rw [ih before, counted_fails, settled]
        rfl

-- One more failure opens the breaker, and the call that will bring it is out.
def lastCall (config : Config) : List Move :=
  failing (config.failureThreshold.toNat - 1) ++ [.acquire]

theorem reached_lastCall :
    reached key config (lastCall config) =
      (counted key config (config.failureThreshold.toNat - 1)).acquire := by
  have positive := UInt64.lt_iff_toNat_lt.1 config.zero_lt_threshold
  rw [lastCall, reached_concat, reached_failing (by omega)]
  rfl

theorem reached_opened :
    reached key config (lastCall config ++ [.giveBack 0 .failure]) =
      { start key config with
        breaker := (counted key config config.failureThreshold.toNat).breaker.trip 0 } := by
  have positive : 0 < config.failureThreshold.toNat :=
    UInt64.lt_iff_toNat_lt.1 config.zero_lt_threshold
  have last : config.failureThreshold.toNat - 1 + 1 = config.failureThreshold.toNat := by omega
  have settled := @settle_counted key config _ (Nat.sub_lt positive Nat.one_pos)
  rw [last, if_pos (Nat.le_refl _)] at settled
  rw [reached_concat, reached_lastCall, step, counted_fails, settled]
  rfl

theorem admits_after_clockTimeout :
    ((reached key config (lastCall config ++ [.giveBack 0 .failure])).run
      [.setClock config.recoveryTimeout.clockMillis]).Admits := by
  rw [reached_opened]
  refine (admits_iff_of_due ?_).2 (.inr ?_)
  · intro _
    exact Nat.le_of_eq (Nat.zero_add _)
  · exact decide_eq_true (UInt64.pos_iff_ne_zero.2 config.limit_ne)

theorem StaysShut.le_clockTimeout {wait : Duration} (shut : StaysShut config wait) :
    wait.nanos ≤ config.clockTimeout.nanos := by
  by_contra longer
  have trips : (reached "" config (lastCall config)).Trips (.giveBack 0 .failure) := by
    rw [Trips, ← reached_concat, reached_opened, reached_lastCall]
    exact ⟨nofun, rfl⟩
  refine shut "" (lastCall config) (.giveBack 0 .failure)
    [.setClock config.recoveryTimeout.clockMillis] trips (by simp) ?_ ?_ admits_after_clockTimeout
  · rw [reached_opened]
    exact ⟨UInt64.zero_le, trivial⟩
  · rw [reached_opened, reached_lastCall]
    exact Nat.not_le.1 longer

end Failing

/-- A breaker stays shut for its timeout as the clock counts it and for no longer, be it a clock
that can go back or not. So it stays shut for the timeout that it was set to exactly if the clock
counts all of that. -/
theorem stays_shut_iff (config : Config) :
    (∀ wait, (TurnsAway config wait ↔ wait.nanos ≤ config.clockTimeout.nanos) ∧
      (StaysShut config wait ↔ wait.nanos ≤ config.clockTimeout.nanos)) ∧
    (StaysShut config config.recoveryTimeout ↔ config.recoveryTimeout = config.clockTimeout) := by
  have turnsAway {wait : Duration} (within : wait.nanos ≤ config.clockTimeout.nanos) :
      TurnsAway config wait := (turnsAway_clockTimeout config).of_le within
  have shut_iff (wait : Duration) :
      StaysShut config wait ↔ wait.nanos ≤ config.clockTimeout.nanos :=
    ⟨fun shut => shut.le_clockTimeout, fun within => (turnsAway within).staysShut⟩
  refine ⟨fun wait => ⟨⟨fun away => away.staysShut.le_clockTimeout, turnsAway⟩, shut_iff wait⟩, ?_⟩
  rw [shut_iff]
  constructor
  · intro within
    have counted := config.recoveryTimeout.ofMillis_clockMillis_le
    exact congrArg Duration.mk (Nat.le_antisymm within counted)
  · intro whole
    exact Nat.le_of_eq (congrArg Duration.nanos whole)

def oddTimeout : Config :=
  { twoProbes with recoveryTimeout := ⟨1500000⟩, recovery_ne := by decide }

theorem oddTimeout_admits_early :
    (reached "svc@h:1" oddTimeout [.acquire]).Trips (.giveBack 0 .failure) ∧
      (reached "svc@h:1" oddTimeout [.acquire]).clock = 0 ∧
      (reached "svc@h:1" oddTimeout [.acquire, .giveBack 0 .failure, .setClock 1]).Early 0
        oddTimeout.recoveryTimeout ∧
      (reached "svc@h:1" oddTimeout [.acquire, .giveBack 0 .failure, .setClock 1]).Admits := by
  decide

end InUse

end Governance.Circuit
