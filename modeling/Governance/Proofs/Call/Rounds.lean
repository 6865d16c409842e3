import Governance.Proofs.Call.Attempt

/-!
The rounds of a call: its attempts one after another, each with what it found and what it left to
the next. The loop of a call is one step for a round that goes on and one step for a round that
does not, and a whole call is the course that these steps make.
-/

set_option autoImplicit false

namespace Governance.Call

variable {σ α : Type}

open Governance.Call.Flow

structure Round (σ : Type) where
  number : Nat
  tried : List String
  found : Session σ

def between (c : Call σ α) (b : Budget) (number : UInt32) : Flow σ Unit := do
  c.invoker.emit (.retrying number b.interval)
  c.invoker.pause b.interval

def conclude (c : Call σ α) (b : Budget) (number : UInt32) (retryLeft : Bool)
    (last : Option (Response α)) : Attempt α → Flow σ (Option (Response α))
  | .unelected e => some <$> c.giveUp b number last e
  | .abandoned => pure none
  | .succeeded response => some <$> c.finish b response number false
  | .failed response false _ => some <$> c.finish b response number false
  | .failed response true _ =>
    let ending := some <$> c.finish b response number (b.maxRetries != 0)
    if retryLeft then outOfTime b number >>= fun _ => ending else ending

namespace Round

def counter (r : Round σ) : UInt32 := .ofNat r.number

-- How often the advice was asked in the rounds before.
def earlier (r : Round σ) : Nat := (r.counter - 1).toNat

def outcome (c : Call σ α) (r : Round σ) : Outcome σ (Attempt α) :=
  (c.attempt r.counter r.tried).run r.found

def response? (c : Call σ α) (r : Round σ) : Option (Response α) := (r.outcome c).value.response?

def address? (c : Call σ α) (r : Round σ) : Option String :=
  match (r.outcome c).value with
  | .failed _ _ address => some address
  | _ => none

def interval (c : Call σ α) (b : Budget) (r : Round σ) : Outcome σ Unit :=
  (c.between b r.counter).run (r.outcome c).session

def next (c : Call σ α) (b : Budget) (r : Round σ) : Round σ where
  number := r.number + 1
  tried := (r.address? c).elim r.tried (remember · r.tried)
  found := (r.interval c b).session

def close (c : Call σ α) (b : Budget) (last : Option (Response α)) (r : Round σ) :
    Outcome σ (Option (Response α)) :=
  (c.conclude b r.counter (r.number ≤ b.maxRetries.toNat) last (r.outcome c).value).run
    (r.outcome c).session

-- The attempt failed in a way that another one may mend, a retry is left, and the pause before it
-- would end in time.
def GoesOn (c : Call σ α) (b : Budget) (r : Round σ) : Prop :=
  (∃ response, r.response? c = some response ∧ response.isSuccess = false ∧
    c.adapter.isRetryable response c.limits.retry) ∧
  r.number ≤ b.maxRetries.toNat ∧
  ∀ timeout, b.timeout = some timeout →
    ((r.outcome c).session.clock.since b.started).plus b.interval.clockMillis < timeout

end Round

namespace Budget

theorem overtime?_eq_none_iff (b : Budget) (now : Millis) :
    b.overtime? now = none ↔ ∀ timeout, b.timeout = some timeout →
      (now.since b.started).plus b.interval.clockMillis < timeout := by
  simp [overtime?, Option.filter_eq_none_iff]

end Budget

namespace Round

-- The counter goes on by one, and from its largest number to zero.
theorem counter_next (c : Call σ α) (b : Budget) (r : Round σ) :
    (r.next c b).counter = r.counter + 1 := UInt32.ofNat_add r.number 1

theorem counter_toNat {r : Round σ} (fits : r.number < UInt32.size) :
    r.counter.toNat = r.number := UInt32.toNat_ofNat_of_lt' fits

theorem earlier_eq {r : Round σ} {k : Nat} (number : r.number = k + 1) (fits : k < UInt32.size) :
    r.earlier = k := by
  have before : UInt32.ofNat (k + 1) - 1 = UInt32.ofNat k := by
    rw [UInt32.ofNat_add]
    exact UInt32.add_sub_cancel _ _
  rw [earlier, counter, number, before, UInt32.toNat_ofNat_of_lt' fits]

theorem judged (c : Call σ α) (r : Round σ) : (r.outcome c).value.Judged c :=
  (attempt_returns c r.counter r.tried r.found).1

theorem answered (c : Call σ α) (r : Round σ) : (r.outcome c).value.Answered c :=
  (attempt_returns c r.counter r.tried r.found).2

theorem goesOn_iff (c : Call σ α) (b : Budget) (r : Round σ) :
    r.GoesOn c b ↔ ∃ response address, (r.outcome c).value = .failed response true address ∧
      b.AllowsRetry r.number (r.outcome c).session.clock := by
  have judged := r.judged c
  unfold GoesOn Budget.AllowsRetry
  rw [Budget.overtime?_eq_none_iff, response?]
  generalize (r.outcome c).value = value at judged
  cases value with
  | unelected e => simp [Attempt.response?]
  | abandoned => simp [Attempt.response?]
  | succeeded response =>
    have fine : response.isSuccess = true := judged
    simp [Attempt.response?, fine]
  | failed response retryable address =>
    obtain ⟨failed, told⟩ := judged
    simp [Attempt.response?, failed, told]

end Round

theorem outOfTime_run_of_none (b : Budget) (number : UInt32) (s : Session σ)
    (inTime : b.overtime? s.clock = none) :
    (outOfTime b number).run s = ⟨false, s, []⟩ := by
  unfold outOfTime
  rw [run_bind_after, run_now]
  dsimp only
  rw [inTime]
  rfl

theorem outOfTime_value (b : Budget) (number : UInt32) (s : Session σ) :
    ((outOfTime b number).run s).value = (b.overtime? s.clock).isSome := by
  unfold outOfTime
  rw [run_bind_after, run_now]
  dsimp only
  cases b.overtime? s.clock with
  | none => rfl
  | some timeout => rfl

theorem outOfTime_session (b : Budget) (number : UInt32) (s : Session σ) :
    ((outOfTime b number).run s).session = s := by
  unfold outOfTime
  rw [run_bind_after, run_now]
  dsimp only
  cases b.overtime? s.clock with
  | none => rfl
  | some timeout => rfl

theorem attempts_of_goesOn (c : Call σ α) (b : Budget) (retries : Nat) (r : Round σ)
    (last : Option (Response α)) (counted : r.number + retries = b.maxRetries.toNat + 1)
    (more : r.GoesOn c b) :
    ∃ left, retries = left + 1 ∧
      (c.attempts b retries r.counter r.tried last).run r.found =
        ((c.attempts b left (r.next c b).counter (r.next c b).tried (r.response? c)).run
          (r.next c b).found).after ((r.outcome c).trace ++ (r.interval c b).trace) := by
  obtain ⟨response, address, value, retryLeft, inTime⟩ := (r.goesOn_iff c b).1 more
  obtain ⟨left, rfl⟩ : ∃ left, retries = left + 1 := ⟨retries - 1, by omega⟩
  refine ⟨left, rfl, ?_⟩
  rw [attempts, run_bind_after, ← Round.outcome, value]
  dsimp only
  rw [if_pos rfl, run_bind_after, outOfTime_run_of_none b r.counter _ inTime]
  dsimp only
  rw [if_neg Bool.false_ne_true, run_bind_after, run_bind_after, Round.counter_next]
  simp only [Outcome.after_after, Round.interval, Round.next, Round.response?, Round.address?, value,
    Attempt.response?, Option.elim, between, run_bind, List.nil_append]

theorem attempts_of_not_goesOn (c : Call σ α) (b : Budget) (retries : Nat) (r : Round σ)
    (last : Option (Response α)) (counted : r.number + retries = b.maxRetries.toNat + 1)
    (stops : ¬ r.GoesOn c b) :
    (c.attempts b retries r.counter r.tried last).run r.found =
      (r.close c b last).after (r.outcome c).trace := by
  rw [Round.goesOn_iff] at stops
  unfold Round.close
  rw [attempts, run_bind_after, ← Round.outcome]
  generalize value_eq : (r.outcome c).value = value at stops
  cases value with
  | unelected e => rfl
  | abandoned => rfl
  | succeeded response => rfl
  | failed response retryable address =>
    cases retryable with
    | false => rfl
    | true =>
      cases retries with
      | zero =>
        have spent : ¬ r.number ≤ b.maxRetries.toNat := by omega
        rw [decide_eq_false spent]
        rfl
      | succ left =>
        have retryLeft : r.number ≤ b.maxRetries.toNat := by omega
        have late : b.overtime? (r.outcome c).session.clock ≠ none := fun inTime =>
          stops ⟨response, address, rfl, retryLeft, inTime⟩
        have told : ((outOfTime b r.counter).run (r.outcome c).session).value = true := by
          rw [outOfTime_value, Option.isSome_iff_ne_none]
          exact late
        rw [decide_eq_true retryLeft]
        dsimp only [conclude]
        rw [if_pos rfl, if_pos rfl, run_bind_after, run_bind_after, told, if_pos rfl]

-- The rounds of a call from one on, after the response of the one before, with what comes of the
-- call: what the rounds left behind, the intervals between them, and how the last one ends it.
inductive Course (c : Call σ α) (b : Budget) :
    Option (Response α) → Round σ → List (Round σ) → Outcome σ (Option (Response α)) → Prop
  | ends {last : Option (Response α)} {r : Round σ} (stops : ¬ r.GoesOn c b) :
      Course c b last r [r] ((r.close c b last).after (r.outcome c).trace)
  | goesOn {last : Option (Response α)} {r : Round σ} {rounds : List (Round σ)}
      {o : Outcome σ (Option (Response α))} (more : r.GoesOn c b)
      (later : Course c b (r.response? c) (r.next c b) rounds o) :
      Course c b last r (r :: rounds) (o.after ((r.outcome c).trace ++ (r.interval c b).trace))

theorem attempts_course (c : Call σ α) (b : Budget) (retries : Nat) (r : Round σ)
    (last : Option (Response α)) (counted : r.number + retries = b.maxRetries.toNat + 1) :
    ∃ rounds, Course c b last r rounds ((c.attempts b retries r.counter r.tried last).run r.found) := by
  induction retries generalizing r last with
  | zero =>
    have stops : ¬ r.GoesOn c b := fun more => by
      have retryLeft := more.2.1
      omega
    rw [attempts_of_not_goesOn c b 0 r last counted stops]
    exact ⟨[r], .ends stops⟩
  | succ left previous =>
    by_cases more : r.GoesOn c b
    · obtain ⟨left', same, run_eq⟩ := attempts_of_goesOn c b (left + 1) r last counted more
      obtain rfl : left = left' := by omega
      have countedNext : (r.next c b).number + left = b.maxRetries.toNat + 1 := by
        change r.number + 1 + left = _
        omega
      obtain ⟨rounds, course⟩ := previous (r.next c b) (r.response? c) countedNext
      rw [run_eq]
      exact ⟨r :: rounds, .goesOn more course⟩
    · rw [attempts_of_not_goesOn c b (left + 1) r last counted more]
      exact ⟨[r], .ends more⟩

namespace Round

def first (s : Session σ) : Round σ := ⟨1, [], s⟩

theorem counter_first (s : Session σ) : (first s).counter = 1 := rfl

theorem earlier_first (s : Session σ) : (first s).earlier = 0 := by
  rw [earlier, counter_first, UInt32.sub_self, UInt32.toNat_zero]

end Round

theorem run_course (c : Call σ α) (s : Session σ) :
    ∃ rounds, Course c (.ofLimits c.limits s.clock) none (.first s) rounds (c.run.run s) :=
  attempts_course c (.ofLimits c.limits s.clock) _ (.first s) none (Nat.add_comm _ _)

end Governance.Call
