import Governance.Proofs.Circuit.Probes
import Governance.Proofs.Circuit.Textbook

set_option autoImplicit false

namespace Governance.Circuit

namespace Breaker

section Settle

variable {b : Breaker} (probe : Bool) (outcome : Outcome) (now : Millis)

theorem settle_state_of_closed (closed : b.state = .closed) :
    (b.settle probe outcome now).state =
      if outcome = .failure ∧ b.config.failureThreshold ≤ b.failures + 1 then .opened
      else .closed := by
  cases outcome with
  | success | dropped => simp [settle, onSuccess, closed]
  | failure =>
    simp only [settle, onFailure, release_state, release_config, release_failures, closed, true_and,
      trip]
    split <;> rfl

theorem settle_failures_of_closed (closed : b.state = .closed) :
    (b.settle probe outcome now).failures =
      match outcome with
      | .success => 0
      | .failure => b.failures + 1
      | .dropped => b.failures := by
  cases outcome with
  | success => simp [settle, onSuccess, closed]
  | dropped => exact release_failures b probe
  | failure =>
    simp only [settle, onFailure, release_state, release_failures, closed, trip]
    split <;> rfl

theorem settle_failures_of_closes (before : b.state ≠ .closed)
    (after : (b.settle probe outcome now).state = .closed) :
    (b.settle probe outcome now).failures = 0 := by
  cases state : b.state with
  | closed => exact absurd state before
  | opened =>
    have stays := (settle_of_opened state probe outcome now).1
    cases stays.symm.trans after
  | halfOpen =>
    have verdict := settle_state_of_halfOpen b probe outcome now state
    cases outcome with
    | success => simp [settle, onSuccess, reset, state]
    | failure | dropped => cases verdict.symm.trans after

end Settle

end Breaker

namespace InUse

def told? (u : InUse) : Move → Option Breaker.Outcome
  | .giveBack index outcome => (u.out[index]?).map (fun _ => outcome)
  | .acquire | .reset | .setClock _ => none

def StartsOver (u : InUse) (move : Move) : Prop :=
  move = .reset ∨
    (u.breaker.state ≠ .closed ∧ (u.step move).breaker.state = .closed) ∨
    (u.breaker.state = .closed ∧ u.told? move = some .success)

instance (u : InUse) (move : Move) : Decidable (u.StartsOver move) :=
  inferInstanceAs (Decidable (_ ∨ _ ∨ _))

def KeepsCounting (u : InUse) : List Move → Prop
  | [] => True
  | move :: rest => ¬ u.StartsOver move ∧ (u.step move).KeepsCounting rest

instance decidableKeepsCounting (u : InUse) :
    (moves : List Move) → Decidable (u.KeepsCounting moves)
  | [] => isTrue trivial
  | move :: rest =>
    haveI := decidableKeepsCounting (u.step move) rest
    inferInstanceAs (Decidable (_ ∧ _))

def failuresTold (u : InUse) : List Move → Nat
  | [] => 0
  | move :: rest =>
    (if u.told? move = some .failure then 1 else 0) + (u.step move).failuresTold rest

-- The moves since the latest one that started the count over, if there is one, are the recent ones.
structure Since (key : String) (config : Config) (moves past recent : List Move) : Prop where
  parts : moves = past ++ recent
  starts : past = [] ∨
    ∃ before last, past = before ++ [last] ∧ (reached key config before).StartsOver last
  keeps : (reached key config past).KeepsCounting recent

-- A closed breaker has counted so many failures, which are not enough to open it.
def HasCounted (u : InUse) (n : Nat) : Prop :=
  u.breaker.state = .closed →
    u.breaker.failures.toNat = n ∧ n < u.breaker.config.failureThreshold.toNat

section Counted

variable {u : InUse} {n : Nat} {move : Move}

theorem hasCounted_zero (none : u.breaker.failures = 0) : u.HasCounted 0 := by
  intro _
  exact ⟨by rw [none]; rfl, UInt64.lt_iff_toNat_lt.1 u.breaker.config.zero_lt_threshold⟩

theorem told?_eq_some_iff {outcome : Breaker.Outcome} :
    u.told? move = some outcome ↔
      ∃ index p, move = .giveBack index outcome ∧ u.out[index]? = some p := by
  cases move with
  | acquire | reset | setClock reading => simp [told?]
  | giveBack index own =>
    cases held : u.out[index]? with
    | none => simp [told?, held]
    | some p => simp [told?, held, eq_comm]

theorem step_giveBack_breaker {index : Nat} {p : Pass} (held : u.out[index]? = some p)
    (outcome : Breaker.Outcome) :
    (u.step (.giveBack index outcome)).breaker = u.breaker.settle p.probe outcome u.clock := by
  simp [step, giveBack, held]

-- What opens or closes a breaker, resets apart, is what it is told.
theorem step_of_untold (untold : u.told? move = none) (kept : move ≠ .reset)
    (state : u.breaker.state = .closed ∨ (u.step move).breaker.state = .closed) :
    (u.step move).breaker.state = .closed ∧ u.breaker.state = .closed ∧
      (u.step move).breaker.failures = u.breaker.failures := by
  cases move with
  | acquire =>
    obtain ⟨admission, after, admits, acquired⟩ := u.acquire_answers
    rw [step, acquired] at state ⊢
    cases admits with
    | call closed => exact ⟨closed, closed, rfl⟩
    | recovering opened => simp [answer, opened] at state
    | probe offers | full offers => simp [answer, offers.state_ne_closed] at state
  | giveBack index outcome =>
    have none : u.out[index]? = none := by simpa [told?] using untold
    have same : u.step (.giveBack index outcome) = u := by simp [step, giveBack, none]
    rw [same] at state ⊢
    exact ⟨or_self_iff.1 state, or_self_iff.1 state, rfl⟩
  | reset => exact absurd rfl kept
  | setClock reading => exact ⟨or_self_iff.1 state, or_self_iff.1 state, rfl⟩

theorem StartsOver.failures_eq (starts : u.StartsOver move) :
    (u.step move).breaker.failures = 0 := by
  rcases starts with rfl | ⟨before, after⟩ | ⟨closed, success⟩
  · rfl
  · cases told : u.told? move with
    | none =>
      by_cases reset : move = .reset
      · rw [reset]
        rfl
      · exact absurd (step_of_untold told reset (.inr after)).2.1 before
    | some outcome =>
      obtain ⟨index, p, rfl, held⟩ := told?_eq_some_iff.1 told
      rw [step_giveBack_breaker held] at after ⊢
      exact Breaker.settle_failures_of_closes _ _ _ before after
  · obtain ⟨index, p, rfl, held⟩ := told?_eq_some_iff.1 success
    rw [step_giveBack_breaker held, Breaker.settle_failures_of_closed _ _ _ closed]

theorem HasCounted.failures_lt (counted : u.HasCounted n) (closed : u.breaker.state = .closed) :
    u.breaker.failures < u.breaker.config.failureThreshold := by
  obtain ⟨exact, below⟩ := counted closed
  rwa [UInt64.lt_iff_toNat_lt, exact]

theorem HasCounted.reaches_iff (counted : u.HasCounted n) (closed : u.breaker.state = .closed) :
    u.breaker.config.failureThreshold ≤ u.breaker.failures + 1 ↔
      n + 1 = u.breaker.config.failureThreshold.toNat := by
  obtain ⟨exact, below⟩ := counted closed
  rw [UInt64.le_iff_toNat_le, Breaker.toNat_failures_succ (counted.failures_lt closed), exact]
  omega

theorem HasCounted.step_state (counted : u.HasCounted n) (closed : u.breaker.state = .closed)
    (move : Move) :
    (u.step move).breaker.state =
      if u.told? move = some .failure ∧ n + 1 = u.breaker.config.failureThreshold.toNat then .opened
      else .closed := by
  cases told : u.told? move with
  | none =>
    rw [if_neg (by simp)]
    by_cases reset : move = .reset
    · rw [reset]
      rfl
    · exact (step_of_untold told reset (.inl closed)).1
  | some outcome =>
    obtain ⟨index, p, rfl, held⟩ := told?_eq_some_iff.1 told
    rw [step_giveBack_breaker held, Breaker.settle_state_of_closed _ _ _ closed]
    simp only [counted.reaches_iff closed, Option.some.injEq]

theorem HasCounted.step (counted : u.HasCounted n) (goesOn : ¬ u.StartsOver move) :
    (u.step move).HasCounted (n + if u.told? move = some .failure then 1 else 0) := by
  intro after
  have closed : u.breaker.state = .closed := by
    by_contra before
    exact goesOn (.inr (.inl ⟨before, after⟩))
  obtain ⟨exact, below⟩ := counted closed
  have state := counted.step_state closed move
  rw [after] at state
  have short : ¬ (u.told? move = some .failure ∧
      n + 1 = u.breaker.config.failureThreshold.toNat) := by
    intro reaches
    rw [if_pos reaches] at state
    cases state
  rw [step_config]
  cases told : u.told? move with
  | none =>
    have kept : move ≠ .reset := fun reset => goesOn (.inl reset)
    rw [(step_of_untold told kept (.inl closed)).2.2]
    exact ⟨exact, below⟩
  | some outcome =>
    rw [told] at short
    obtain ⟨index, p, rfl, held⟩ := told?_eq_some_iff.1 told
    rw [step_giveBack_breaker held, Breaker.settle_failures_of_closed _ _ _ closed]
    cases outcome with
    | success => exact absurd (.inr (.inr ⟨closed, told⟩)) goesOn
    | dropped => exact ⟨exact, below⟩
    | failure =>
      have next := Breaker.toNat_failures_succ (counted.failures_lt closed)
      simp only [true_and] at short
      simp only [if_true]
      omega

theorem HasCounted.run {moves : List Move} (counted : u.HasCounted n)
    (keeps : u.KeepsCounting moves) : (u.run moves).HasCounted (n + u.failuresTold moves) := by
  induction moves generalizing u n with
  | nil => exact counted
  | cons move rest ih =>
    rw [failuresTold, ← Nat.add_assoc]
    exact ih (counted.step keeps.1) keeps.2

end Counted

section Since

variable {key : String} {config : Config} {moves past recent : List Move}

theorem reached_append (key : String) (config : Config) (past recent : List Move) :
    reached key config (past ++ recent) = (reached key config past).run recent := by
  simp [reached, run]

theorem Since.hasCounted (since : Since key config moves past recent) :
    (reached key config moves).HasCounted ((reached key config past).failuresTold recent) := by
  have begun : (reached key config past).HasCounted 0 := by
    apply hasCounted_zero
    rcases since.starts with rfl | ⟨before, last, rfl, starts⟩
    · rfl
    · rw [reached_concat]
      exact starts.failures_eq
  have counted := begun.run since.keeps
  rw [Nat.zero_add] at counted
  rw [since.parts, reached_append]
  exact counted

theorem KeepsCounting.concat {u : InUse} {move : Move} (keeps : u.KeepsCounting moves)
    (goesOn : ¬ (u.run moves).StartsOver move) : u.KeepsCounting (moves ++ [move]) := by
  induction moves generalizing u with
  | nil => exact ⟨goesOn, trivial⟩
  | cons first rest ih => exact ⟨keeps.1, ih keeps.2 goesOn⟩

theorem exists_since (key : String) (config : Config) (moves : List Move) :
    ∃ past recent, Since key config moves past recent := by
  induction moves using List.reverseRecOn with
  | nil => exact ⟨[], [], rfl, .inl rfl, trivial⟩
  | append_singleton moves move ih =>
    by_cases starts : (reached key config moves).StartsOver move
    · exact ⟨moves ++ [move], [], (List.append_nil _).symm, .inr ⟨moves, move, rfl, starts⟩, trivial⟩
    · obtain ⟨past, recent, since⟩ := ih
      refine ⟨past, recent ++ [move], ?_, since.starts, since.keeps.concat ?_⟩
      · rw [since.parts, List.append_assoc]
      · rwa [← reached_append, ← since.parts]

end Since

/-- In every run there is a latest place at which the count started over, be it the beginning. If
the breaker is closed, it has counted the failures told since, these are fewer than the threshold,
and the next move opens it exactly if it tells the failure that makes up the threshold. -/
theorem opens_at_threshold (key : String) (config : Config) (moves : List Move) :
    (∃ past recent, Since key config moves past recent) ∧
      ∀ past recent, Since key config moves past recent →
        (reached key config moves).breaker.state = .closed →
          (reached key config moves).breaker.failures < config.failureThreshold ∧
          (reached key config moves).breaker.failures.toNat =
            (reached key config past).failuresTold recent ∧
          ∀ move, (reached key config (moves ++ [move])).breaker.state =
            if (reached key config moves).told? move = some .failure ∧
                (reached key config past).failuresTold recent + 1 = config.failureThreshold.toNat
              then .opened else .closed := by
  refine ⟨exists_since key config moves, fun past recent since closed => ?_⟩
  have counted := since.hasCounted
  have below := counted.failures_lt closed
  have next := counted.step_state closed
  rw [reached_config] at below next
  refine ⟨below, (counted closed).1, fun move => ?_⟩
  rw [reached_concat]
  exact next move

def pairOpens : Config :=
  { twoProbes with failureThreshold := 2, threshold_ne := twoProbes.limit_ne }

-- Two of four calls open the breaker; the third fails while it is open, a probe closes it, and then
-- the fourth fails.
def slowFailures : List Move :=
  [.acquire, .acquire, .acquire, .acquire, .giveBack 0 .failure, .giveBack 0 .failure,
    .giveBack 0 .failure, .setClock 10, .acquire, .giveBack 1 .success]

theorem slowFailures_open :
    Since "svc@h:1" pairOpens (slowFailures ++ [.giveBack 0 .failure, .acquire]) slowFailures
        [.giveBack 0 .failure, .acquire] ∧
      (reached "svc@h:1" pairOpens
        (slowFailures ++ [.giveBack 0 .failure, .acquire])).breaker.state = .closed ∧
      (reached "svc@h:1" pairOpens
        (slowFailures ++ [.giveBack 0 .failure, .acquire])).breaker.failures.toNat = 1 ∧
      (reached "svc@h:1" pairOpens (slowFailures ++ [.giveBack 0 .failure, .acquire] ++
        [.giveBack 0 .failure])).breaker.state = .opened := by
  have since : Since "svc@h:1" pairOpens (slowFailures ++ [.giveBack 0 .failure, .acquire])
      slowFailures [.giveBack 0 .failure, .acquire] :=
    ⟨rfl, .inr ⟨slowFailures.dropLast, .giveBack 1 .success, rfl, by decide⟩, by decide⟩
  have closed : (reached "svc@h:1" pairOpens
      (slowFailures ++ [.giveBack 0 .failure, .acquire])).breaker.state = .closed := by decide
  obtain ⟨-, exact, next⟩ := (opens_at_threshold "svc@h:1" pairOpens _).2 _ _ since closed
  refine ⟨since, closed, exact.trans (by decide), (next _).trans (if_pos ?_)⟩
  decide

end InUse

end Governance.Circuit
