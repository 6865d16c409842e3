import Mathlib.Algebra.Order.Floor.Div
import Governance.Proofs.Call.Budget
import Governance.Proofs.Call.Visits
import Governance.Proofs.Policy.Scopes

set_option autoImplicit false

namespace Governance.Call

variable {σ α : Type}

open Governance.Call.Flow

def PausesExactly (c : Call σ α) : Prop :=
  ∀ d s, (c.invoker.sleep d s).clock = (Sleeper.moveClock.sleep d ⟨s.clock⟩).now

-- Nothing between a pause and the invocation after it takes time: neither what lists the endpoints
-- nor the sink.
structure Prompt (c : Call σ α) : Prop where
  route : ∀ s, (c.adapter.route c.request s).2.clock = s.clock
  deliver : ∀ event s, (c.invoker.deliver event s).1.clock = s.clock

def SameClock (s later : Session σ) : Prop := later.clock = s.clock

def ClockForward (s later : Session σ) : Prop := s.clock ≤ later.clock

-- The call as far as its elections go, which are the same: it leaves out what comes of whoever is
-- elected.
def electing (c : Call σ α) : Call σ α :=
  { c with
    invoker := { c.invoker with sleep := fun _ s => s }
    adapter :=
      { c.adapter with
        invoke := fun _ _ s => (none, s)
        onSuccess := fun _ _ s => s
        onFailure := fun _ _ _ s => s } }

def unpausing (c : Call σ α) : Call σ α :=
  { c with invoker := { c.invoker with sleep := fun _ s => s } }

theorem Prompt.whole {c : Call σ α} (prompt : Prompt c) : Whole SameClock c.electing where
  refl _ := rfl
  trans first second := Eq.trans second first
  route := prompt.route
  onSuccess _ _ := rfl
  onFailure _ _ _ := rfl
  sleep _ _ := rfl
  deliver := prompt.deliver
  balance _ _ _ := rfl
  invokes _ _ := rfl
  breakers _ _ := rfl

namespace Round

-- Where the pause after the round begins: the sink has been told of it.
def parting (c : Call σ α) (b : Budget) (r : Round σ) : Session σ :=
  ((c.invoker.emit (.retrying r.counter b.interval)).run (r.outcome c).session).session

def sinkTime (c : Call σ α) (b : Budget) (r : Round σ) : Nat :=
  (r.parting c b).clock.toNat - (r.outcome c).session.clock.toNat

structure RunsForward (c : Call σ α) (b : Budget) (r : Round σ) : Prop where
  attempt : r.found.clock ≤ (r.outcome c).session.clock
  telling : r.GoesOn c b → (r.outcome c).session.clock ≤ (r.parting c b).clock
  pause : r.GoesOn c b → (r.parting c b).clock ≤ (r.next c b).found.clock

structure StartsBefore (c : Call σ α) (deadline : Nat) (r : Round σ) : Prop where
  starts : r.found.clock.toNat < deadline
  invokes : ∀ elected, (r.election c).value = .ok elected →
    (r.admission c elected).session.clock.toNat < deadline

variable {c : Call σ α} {b : Budget} {r : Round σ} {timeout : Millis}

theorem admission_clock (prompt : Prompt c) (r : Round σ) (elected : Elected) :
    (r.admission c elected).session.clock = r.found.clock := by
  have whole := prompt.whole
  have election : (r.election c).session.clock = r.found.clock := whole.elect r.earlier r.tried r.found
  have announcement : (r.announcement c elected).session.clock = (r.election c).session.clock :=
    whole.emit _ _
  have admission :
      (r.admission c elected).session.clock = (r.announcement c elected).session.clock :=
    whole.acquire _ _
  rw [admission, announcement, election]

theorem clock_next (exactly : PausesExactly c) :
    (r.next c b).found.clock = (r.parting c b).clock + b.interval.clockMillis := by
  have found : (r.next c b).found =
      ((c.invoker.pause b.interval).run (r.parting c b)).session := rfl
  rw [found, Invoker.pause]
  split
  · rename_i none
    rw [none]
    exact (UInt64.add_zero _).symm
  · exact exactly _ _

theorem RunsForward.toNat_next (forward : r.RunsForward c b) (exactly : PausesExactly c)
    (more : r.GoesOn c b) :
    (r.next c b).found.clock.toNat =
      (r.parting c b).clock.toNat + b.interval.clockMillis.toNat := by
  have kept := forward.pause more
  have bound := (r.parting c b).clock.toNat_lt
  have step := b.interval.clockMillis.toNat_lt
  rw [clock_next exactly] at kept ⊢
  rw [UInt64.le_iff_toNat_le, UInt64.toNat_add] at kept
  rw [UInt64.toNat_add]
  omega

theorem GoesOn.inTime (more : r.GoesOn c b) (limited : b.timeout = some timeout) :
    (r.outcome c).session.clock.toNat - b.started.toNat + b.interval.clockMillis.toNat <
      timeout.toNat := by
  have within := more.2.2 timeout limited
  have bound := timeout.toNat_lt
  rw [UInt64.lt_iff_toNat_lt, Millis.toNat_plus, Millis.toNat_since, UInt64.size] at within
  omega

theorem parting_clock (prompt : Prompt c) :
    (r.parting c b).clock = (r.outcome c).session.clock := prompt.deliver _ _

-- A pause that ends before a deadline which the clock can read does not make it run over.
theorem GoesOn.clock_le_next (more : r.GoesOn c b) (exactly : PausesExactly c) (prompt : Prompt c)
    (limited : b.timeout = some timeout)
    (readable : b.started.toNat + timeout.toNat ≤ UInt64.size)
    (begun : b.started ≤ (r.outcome c).session.clock) :
    (r.outcome c).session.clock ≤ (r.next c b).found.clock := by
  have inTime := more.inTime limited
  rw [clock_next exactly, parting_clock prompt, UInt64.le_iff_toNat_le, UInt64.toNat_add]
  rw [UInt64.le_iff_toNat_le] at begun
  rw [UInt64.size] at readable
  omega

theorem RunsForward.next_lt (forward : r.RunsForward c b) (exactly : PausesExactly c)
    (more : r.GoesOn c b) (limited : b.timeout = some timeout)
    (begun : b.started.toNat ≤ r.found.clock.toNat) :
    (r.next c b).found.clock.toNat < b.started.toNat + timeout.toNat + r.sinkTime c b := by
  have inTime := more.inTime limited
  have attempt := UInt64.le_iff_toNat_le.1 forward.attempt
  have telling := UInt64.le_iff_toNat_le.1 (forward.telling more)
  rw [forward.toNat_next exactly more, sinkTime]
  omega

theorem sinkTime_eq_zero (prompt : Prompt c) : r.sinkTime c b = 0 := by
  rw [sinkTime, parting_clock prompt, Nat.sub_self]

theorem StartsBefore.of_prompt {deadline : Nat} (prompt : Prompt c)
    (starts : r.found.clock.toNat < deadline) : r.StartsBefore c deadline where
  starts := starts
  invokes elected _ := by
    rw [admission_clock prompt]
    exact starts

end Round

namespace Course

variable {c : Call σ α} {b : Budget} {last : Option (Response α)} {r : Round σ}
  {rounds : List (Round σ)} {o : Outcome σ (Option (Response α))} {timeout : Millis}

theorem clock_le (course : Course c b last r rounds o) (exactly : PausesExactly c)
    (forward : ∀ one ∈ rounds, one.RunsForward c b) (k : Nat) (later : Round σ)
    (made : rounds[k]? = some later) :
    r.found.clock.toNat + k * b.interval.clockMillis.toNat ≤ later.found.clock.toNat := by
  refine course.at_each (P := fun k one =>
    r.found.clock.toNat + k * b.interval.clockMillis.toNat ≤ one.found.clock.toNat)
    ?_ ?_ k later made
  · simp
  · intro k one here more reached
    have own := forward one (List.mem_of_getElem? here)
    have attempt := UInt64.le_iff_toNat_le.1 own.attempt
    have telling := UInt64.le_iff_toNat_le.1 (own.telling more)
    rw [own.toNat_next exactly more, Nat.succ_mul]
    omega

theorem length_le_ceilDiv (course : Course c b last r rounds o) (exactly : PausesExactly c)
    (forward : ∀ one ∈ rounds, one.RunsForward c b) (limited : b.timeout = some timeout)
    (begun : b.started.toNat ≤ r.found.clock.toNat) (paced : 0 < b.interval.clockMillis.toNat) :
    rounds.length ≤ max 1 (timeout.toNat ⌈/⌉ b.interval.clockMillis.toNat) := by
  by_contra many
  obtain ⟨several, more⟩ : 1 < rounds.length ∧
      timeout.toNat ⌈/⌉ b.interval.clockMillis.toNat ≤ rounds.length - 1 := by omega
  -- The round before the last one went on.
  obtain ⟨k, length⟩ : ∃ k, rounds.length = k + 2 := ⟨rounds.length - 2, by omega⟩
  have made : rounds[k]? = some rounds[k] := List.getElem?_eq_getElem (by omega)
  have inTime := ((course.goesOn_iff k _ made).1 (by omega)).inTime limited
  have reached := course.clock_le exactly forward k _ made
  have attempt := UInt64.le_iff_toNat_le.1 (forward _ (List.mem_of_getElem? made)).attempt
  have room : timeout.toNat ≤ b.interval.clockMillis.toNat * (k + 1) := by
    rw [length] at more
    exact (ceilDiv_le_iff_le_smul paced).1 more
  rw [Nat.mul_comm, Nat.succ_mul] at room
  omega

theorem later_lt (course : Course c b last r rounds o) (exactly : PausesExactly c)
    (forward : ∀ one ∈ rounds, one.RunsForward c b) (limited : b.timeout = some timeout)
    (begun : b.started.toNat ≤ r.found.clock.toNat) (k : Nat) (earlier later : Round σ)
    (first : rounds[k]? = some earlier) (second : rounds[k + 1]? = some later) :
    later.found.clock.toNat < b.started.toNat + timeout.toNat + earlier.sinkTime c b := by
  obtain ⟨inside, -⟩ := List.getElem?_eq_some_iff.1 second
  have reached := course.clock_le exactly forward k earlier first
  rw [course.linked k earlier later first second]
  exact (forward earlier (List.mem_of_getElem? first)).next_lt exactly
    ((course.goesOn_iff k earlier first).1 inside) limited (by omega)

theorem runsForward (course : Course c b last r rounds o) (exactly : PausesExactly c)
    (prompt : Prompt c) (whole : Whole ClockForward c.unpausing)
    (limited : b.timeout = some timeout)
    (readable : b.started.toNat + timeout.toNat ≤ UInt64.size) (begun : b.started ≤ r.found.clock) :
    ∀ one ∈ rounds, one.RunsForward c b := by
  have attempt (one : Round σ) : one.found.clock ≤ (one.outcome c).session.clock :=
    whole.attempt one
  have pause (one : Round σ) (begun : b.started ≤ one.found.clock) (more : one.GoesOn c b) :
      (one.outcome c).session.clock ≤ (one.next c b).found.clock :=
    more.clock_le_next exactly prompt limited readable (UInt64.le_trans begun (attempt one))
  intro one mem
  obtain ⟨k, made⟩ := List.mem_iff_getElem?.1 mem
  have reached : b.started ≤ one.found.clock := by
    refine course.at_each (P := fun _ one => b.started ≤ one.found.clock) begun ?_ k one made
    intro _ earlier _ more late
    exact UInt64.le_trans late (UInt64.le_trans (attempt earlier) (pause earlier late more))
  have told : (one.parting c b).clock = (one.outcome c).session.clock := Round.parting_clock prompt
  exact ⟨attempt one, fun _ => UInt64.le_of_eq told.symm, fun more => told ▸ pause one reached more⟩

end Course

theorem clockMillis_pause (l : Limits) : l.pause.clockMillis = l.intervalSetting.getD 0 := by
  rw [Limits.pause_eq, Duration.clockMillis_ofMillis]

/-- On a clock that only runs forward, every round of a call but the first starts within the time
limit, not counting what the sink takes to hear of the retry; and where neither the sink nor the
listing of endpoints takes time, whoever is elected is also invoked within it. The interval leaves
room for only so many rounds, whatever the limit on retries is. -/
theorem run_startsInTime (c : Call σ α) (s : Session σ) {timeout : Millis}
    (limited : c.limits.timeout? = some timeout) (exactly : PausesExactly c) :
    ∃ rounds, Course c (.ofLimits c.limits s.clock) none (.first s) rounds (c.run.run s) ∧
      ((∀ r ∈ rounds, r.RunsForward c (.ofLimits c.limits s.clock)) →
        (∀ k earlier later, rounds[k]? = some earlier → rounds[k + 1]? = some later →
          later.found.clock.toNat <
            s.clock.toNat + timeout.toNat + earlier.sinkTime c (.ofLimits c.limits s.clock)) ∧
        (Prompt c → ∀ k r, rounds[k]? = some r → 0 < k →
          r.StartsBefore c (s.clock.toNat + timeout.toNat)) ∧
        (0 < c.limits.intervalSetting.getD 0 →
          rounds.length ≤ max 1 (timeout.toNat ⌈/⌉ (c.limits.intervalSetting.getD 0).toNat))) := by
  obtain ⟨rounds, course⟩ := run_course c s
  refine ⟨rounds, course, fun forward => ?_⟩
  have starts := course.later_lt exactly forward limited le_rfl
  refine ⟨starts, fun prompt k r made later => ?_, fun paced => ?_⟩
  · obtain ⟨inside, -⟩ := List.getElem?_eq_some_iff.1 made
    obtain ⟨k, rfl⟩ := Nat.exists_eq_add_of_lt later
    rw [Nat.zero_add] at made
    have inTime := starts k _ r (List.getElem?_eq_getElem (by omega)) made
    rw [Round.sinkTime_eq_zero prompt] at inTime
    exact .of_prompt prompt inTime
  · rw [← clockMillis_pause] at paced ⊢
    exact course.length_le_ceilDiv exactly forward limited le_rfl (UInt64.lt_iff_toNat_lt.1 paced)

section Slow

-- It takes this service 20 milliseconds to fail, and there are more retries than there is time for.
def slowCall : Call Unit String where
  invoker :=
    ⟨.nowhere, .standard, .degrade,
      fun d s => { s with clock := (Sleeper.moveClock.sleep d ⟨s.clock⟩).now }, fun _ s => (s, [])⟩
  adapter :=
    { route := fun _ s => (.ok [⟨"h", 1, .healthy, .empty⟩], s)
      invoke := fun _ _ s => (some (.failure (.new "down")), { s with clock := s.clock.plus 20 })
      isRetryable := fun _ _ => true }
  request := .plain "svc" none
  limits :=
    ⟨some { FailoverPolicy.blank with retry := some 100, timeout := some 250 },
      some { RetryPolicy.blank with interval := some 100 }, none⟩
  advice := none

def beforeSlow : Session Unit := ⟨7, .standard, none, ()⟩

theorem slowCall_exact : PausesExactly slowCall := fun _ _ => rfl

theorem slowCall_prompt : Prompt slowCall := ⟨fun _ => rfl, fun _ _ => rfl⟩

theorem slowCall_forward : Whole ClockForward slowCall.unpausing where
  refl _ := UInt64.le_refl _
  trans first second := UInt64.le_trans first second
  route _ := UInt64.le_refl _
  onSuccess _ _ := UInt64.le_refl _
  onFailure _ _ _ := UInt64.le_refl _
  sleep _ _ := UInt64.le_refl _
  deliver _ _ := UInt64.le_refl _
  balance _ _ _ := UInt64.le_refl _
  invokes _ s := Millis.le_plus_left s.clock 20
  breakers _ _ := UInt64.le_refl _

theorem slow_in_time :
    slowCall.limits.timeout? = some 250 ∧ PausesExactly slowCall ∧ Prompt slowCall ∧
      ∃ rounds, Course slowCall (.ofLimits slowCall.limits 7) none (.first beforeSlow) rounds
          (slowCall.run.run beforeSlow) ∧
        (∀ r ∈ rounds, r.RunsForward slowCall (.ofLimits slowCall.limits 7)) ∧
        (∀ k r, rounds[k]? = some r → 0 < k → r.StartsBefore slowCall 257) ∧
        rounds.length = 3 := by
  have limited : slowCall.limits.timeout? = some 250 := rfl
  obtain ⟨rounds, course, inTime⟩ :=
    run_startsInTime slowCall beforeSlow limited slowCall_exact
  have forward := course.runsForward slowCall_exact slowCall_prompt slowCall_forward limited
    (by decide) (UInt64.le_refl _)
  obtain ⟨-, starts, few⟩ := inTime forward
  have goesOn : (Round.first beforeSlow).GoesOn slowCall (.ofLimits slowCall.limits 7) :=
    (Round.goesOn_iff _ _ _).2 ⟨_, _, rfl, by decide, rfl⟩
  have again : ((Round.first beforeSlow).next slowCall (.ofLimits slowCall.limits 7)).GoesOn
      slowCall (.ofLimits slowCall.limits 7) :=
    (Round.goesOn_iff _ _ _).2 ⟨_, _, rfl, by decide, rfl⟩
  have three : 3 ≤ rounds.length := by
    obtain ⟨later, rfl⟩ := course.nonempty
    have two := (course.goesOn_iff 0 _ rfl).2 goesOn
    have made := List.getElem?_eq_getElem two
    rw [course.linked 0 _ _ rfl made] at made
    exact (course.goesOn_iff 1 _ made).2 again
  exact ⟨limited, slowCall_exact, slowCall_prompt, rounds, course, forward, starts slowCall_prompt,
    le_antisymm (few (by decide)) three⟩

end Slow

end Governance.Call
