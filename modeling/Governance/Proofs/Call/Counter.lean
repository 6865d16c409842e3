import Governance.Proofs.Call.Telemetry

set_option autoImplicit false

namespace Governance

def Event.number? : Event → Option UInt32
  | .elected _ _ number => some number
  | _ => none

-- A call in which no time passes has time for a retry.
def Limits.RetriesAtOnce (l : Limits) : Prop :=
  ∀ timeout, l.timeout? = some timeout → l.pause.clockMillis < timeout

end Governance

namespace Governance.Call

variable {σ α : Type}

open Governance.Call.Flow

def numbers (es : List Event) : List UInt32 := es.filterMap Event.number?

theorem numbers_append (earlier later : List Event) :
    numbers (earlier ++ later) = numbers earlier ++ numbers later := List.filterMap_append

theorem numbers_ending (attempts : UInt32) (duration : Duration) (exhausted : Bool)
    (response : Option (Response α)) : numbers (ending attempts duration exhausted response) = [] := by
  cases response with
  | none => rfl
  | some response =>
    cases exhausted <;> cases fine : response.isSuccess <;>
      simp [numbers, ending, Event.number?, fine]

namespace Round

theorem numbers_report (c : Call σ α) (r : Round σ) :
    numbers (r.report c) = if r.elects c then [r.counter] else [] := by
  have failures : numbers (failureEvents (r.complaints c)) = [] := by
    simp [numbers, failureEvents, Event.number?]
  rw [report, numbers_append, failures, elects]
  cases (r.election c).value <;> rfl

theorem numbers_reports (c : Call σ α) (b : Budget) {rounds : List (Round σ)}
    (elected : ∀ r ∈ rounds, r.elects c) :
    numbers (rounds.flatMap (fun r => r.report c ++ [.retrying r.counter b.interval])) =
      rounds.map Round.counter := by
  induction rounds with
  | nil => rfl
  | cons r rest ih =>
    obtain ⟨own, others⟩ := List.forall_mem_cons.1 elected
    rw [List.flatMap_cons, numbers_append, numbers_append, numbers_report, if_pos own, ih others]
    rfl

end Round

structure Counts (c : Call σ α) (b : Budget) (rounds : List (Round σ))
    (o : Outcome σ (Option (Response α))) : Prop where
  counted : ∀ k r, rounds[k]? = some r → r.counter.toNat = k + 1
  announced : ∀ k number, (numbers (events o.trace))[k]? = some number → number.toNat = k + 1
  bounded : rounds.length ≤ b.maxRetries.toNat + 1

section Runs

variable {c : Call σ α} {b : Budget} {last : Option (Response α)} {r : Round σ}
  {rounds : List (Round σ)} {o : Outcome σ (Option (Response α))} {s : Session σ}

-- The sink is told the numbers of the rounds, but for a last one that elects nobody.
theorem Course.numbers_prefix (course : Course c b last r rounds o) :
    numbers (events o.trace) <+: rounds.map Round.counter := by
  obtain ⟨earlier, final, rfl, elected, -, exhausted, -, told⟩ := course.inOrder
  rw [told, numbers_append, numbers_append, numbers_ending, List.append_nil,
    Round.numbers_reports c b elected, Round.numbers_report, List.map_append]
  cases final.elects c with
  | true => exact List.prefix_rfl
  | false => simp

theorem Course.counter_eq (course : Course c b none (.first s) rounds o)
    (few : rounds.length < UInt32.size) (k : Nat) (r : Round σ) (made : rounds[k]? = some r) :
    r.counter.toNat = k + 1 := by
  obtain ⟨inside, -⟩ := List.getElem?_eq_some_iff.1 made
  have number := course.number_eq k r made
  rw [Round.counter_toNat (by omega), number]

theorem Course.counts_iff (course : Course c b none (.first s) rounds o) :
    Counts c b rounds o ↔ rounds.length < UInt32.size := by
  constructor
  · intro counts
    by_contra many
    have late : UInt32.size - 1 < rounds.length := by
      simp only [UInt32.size] at *
      omega
    have reading := counts.counted _ _ (List.getElem?_eq_getElem late)
    have bound := (rounds[UInt32.size - 1]).counter.toNat_lt
    simp only [UInt32.size] at *
    omega
  · intro few
    refine ⟨course.counter_eq few, fun k number told => ?_, course.rounds_le⟩
    obtain ⟨among, rfl⟩ := List.getElem?_eq_some_iff.1 told
    have made := List.prefix_iff_getElem?.1 course.numbers_prefix k among
    rw [List.getElem?_map, Option.map_eq_some_iff] at made
    obtain ⟨r, made, number⟩ := made
    rw [← number, course.counter_eq few k r made]

section Kept

variable {P : Round σ → Prop} (kept : ∀ r, P r → P (r.next c b))
include kept

theorem Course.all (course : Course c b last r rounds o) (start : P r) : ∀ r ∈ rounds, P r := by
  induction course with
  | ends stops => simpa using start
  | goesOn more later previous => exact List.forall_mem_cons.2 ⟨start, previous (kept _ start)⟩

-- Rounds that always fail in a way worth another one use all retries up.
theorem Course.length_eq (course : Course c b last r rounds o) (start : P r)
    (persists : ∀ r, P r → r.number ≤ b.maxRetries.toNat → r.GoesOn c b)
    (counted : r.number ≤ b.maxRetries.toNat + 1) :
    r.number + rounds.length = b.maxRetries.toNat + 2 := by
  induction course with
  | @ends last r stops =>
    have spent : ¬ r.number ≤ b.maxRetries.toNat := fun left => stops (persists r start left)
    simp only [List.length_singleton]
    omega
  | @goesOn last r rounds o more later previous =>
    have retryLeft := more.2.1
    have rest : r.number + 1 + rounds.length = b.maxRetries.toNat + 2 :=
      previous (kept r start) (Nat.succ_le_succ retryLeft)
    rw [List.length_cons]
    omega

end Kept

-- Two accounts of the same call agree on the attempts, unless the caller waits for a response.
theorem Tells.attempts_eq {earlier : List (Round σ)} {final : Round σ} {attempts others : UInt32}
    (one : Tells c b earlier final attempts o) (other : Tells c b earlier final others o)
    (ended : o.value ≠ none) : attempts = others := by
  obtain ⟨exhausted, -, told⟩ := one.inOrder
  obtain ⟨exhausted', -, told'⟩ := other.inOrder
  obtain ⟨response, value⟩ := Option.ne_none_iff_exists'.1 ended
  have latest := congrArg List.getLast? (told.symm.trans told')
  rw [value, ending, ending, ← List.append_assoc, ← List.append_assoc, List.getLast?_concat,
    List.getLast?_concat] at latest
  split at latest <;> cases latest <;> rfl

section Full

variable {earlier : List (Round σ)} {final : Round σ}
  (course : Course c b none (.first s) (earlier ++ [final]) o)
include course

theorem Course.tells :
    Tells c b earlier final ((final.outcome c).value.countOf final.counter) o ∧
      ∃ before, o.value = (final.outcome c).value.answer before := by
  obtain ⟨others, last, same, elected, answered, told⟩ := course.inOrder
  obtain ⟨rfl, single⟩ := List.append_inj' same rfl
  obtain rfl : final = last := List.singleton_inj.1 single
  exact ⟨⟨elected, fun r _ => r.complaints_length_le c, course.asked_before, told,
    course.ends_of_answering⟩, answered⟩

theorem Course.final_number : final.number = earlier.length + 1 :=
  course.number_eq _ _ (by simp)

-- At the end of its range the counter reads zero, which is neither the number of the last attempt
-- nor, less one, how many attempts there were before.
theorem Course.not_reports_of_full (full : earlier.length + 1 = UInt32.size) :
    ¬ Reports c b earlier final o := by
  intro reports
  obtain ⟨tells, answered⟩ := course.tells
  have empty : final.counter = 0 := by
    rw [Round.counter, course.final_number, full]
    rfl
  by_cases chosen : final.elects c
  · have reading := reports.numbered earlier.length final (by simp) chosen
    rw [empty, full] at reading
    exact absurd reading (by decide)
  · obtain ⟨e, unelected⟩ := Round.unelected_of_not_elects chosen
    obtain ⟨attempts, told, count⟩ := reports.told
    rw [Round.outcome_of_unelected unelected] at tells answered
    obtain ⟨before, value⟩ := answered
    have ended : o.value ≠ none := by
      rw [value]
      exact Option.some_ne_none _
    have same : attempts = made 0 := by
      rw [← empty]
      exact told.attempts_eq tells ended
    rw [same, toNat_made, List.countP_append, List.countP_eq_length.2 tells.elected,
      List.countP_singleton, if_neg chosen] at count
    simp only [UInt32.toNat_zero, UInt32.size] at count full
    omega

theorem Course.reports_iff :
    Reports c b earlier final o ↔ (earlier ++ [final]).length < UInt32.size := by
  have length : (earlier ++ [final]).length = earlier.length + 1 := by simp
  constructor
  · intro reports
    by_contra many
    refine course.not_reports_of_full ?_ reports
    have few := course.rounds_le
    have bound := b.maxRetries.toNat_lt
    simp only [UInt32.size] at *
    omega
  · intro few
    obtain ⟨tells, -⟩ := course.tells
    refine ⟨fun k r made _ => course.counter_eq few k r made, _, tells, ?_⟩
    have fits : final.number < UInt32.size := by
      rw [course.final_number]
      omega
    rw [Round.toNat_countOf c fits (by rw [course.final_number]; omega), List.countP_append,
      List.countP_eq_length.2 tells.elected, course.final_number, List.countP_singleton]
    by_cases chosen : final.elects c <;> simp [chosen]

end Full

theorem Course.length_eq_one {l : Limits} (never : ¬ l.RetriesAtOnce)
    (course : Course c (.ofLimits l s.clock) last r rounds o) : rounds.length = 1 := by
  cases course with
  | ends stops => rfl
  | goesOn more later =>
    refine absurd (fun timeout limit => ?_) never
    exact UInt64.lt_of_le_of_lt (Millis.le_plus_right _ _) (more.2.2 timeout limit)

theorem Course.length_lt {l : Limits} (fits : l.RetriesAtOnce → l.maxRetries.toNat + 1 < UInt32.size)
    (course : Course c (.ofLimits l s.clock) none (.first s) rounds o) :
    rounds.length < UInt32.size := by
  by_cases atOnce : l.RetriesAtOnce
  · have few := fits atOnce
    have length : rounds.length ≤ l.maxRetries.toNat + 1 := course.rounds_le
    omega
  · rw [course.length_eq_one atOnce]
    decide

end Runs

section Down

def downEndpoint : Endpoint := ⟨"h", 1, .healthy, .empty⟩

def downResponse : Response String := .failure (.new "down")

-- A service that is down: whoever calls it is told so at once, and that it is worth another attempt.
def downCall (l : Limits) : Call Unit String where
  invoker := ⟨.nowhere, [], .degrade, fun _ s => s, fun _ s => (s, [])⟩
  adapter :=
    { route := fun _ s => (.ok [downEndpoint], s)
      invoke := fun _ _ s => (some downResponse, s)
      isRetryable := fun _ _ => true }
  request := .plain "svc" none
  limits := l
  advice := some (.always downEndpoint)

def downSession : Session Unit := ⟨0, .standard, none, ()⟩

theorem downCall_candidates (l : Limits) (tried : List String) :
    (downCall l).candidates downSession tried [downEndpoint] = .ok [downEndpoint] := by
  have available : (downCall l).available downSession [downEndpoint] = [downEndpoint] := rfl
  have kept : (downCall l).kept [downEndpoint] = [downEndpoint] := rfl
  simp [candidates, available, kept, preferUntried_singleton]

theorem downCall_attempt (l : Limits) (number : Nat) (tried : List String) :
    (((downCall l).attempt number tried).run downSession).value =
        .failed downResponse true downEndpoint.address ∧
      (((downCall l).attempt number tried).run downSession).session = downSession := by
  have routed : (downCall l).route.run downSession =
      ⟨.ok [downEndpoint], downSession, [.routed]⟩ := rfl
  unfold attempt elect
  rw [run_bind_after, run_bind_after, routed]
  dsimp only
  rw [run_session_bind, downCall_candidates]
  exact ⟨rfl, rfl⟩

theorem downCall_between (l : Limits) (b : Budget) (number : Nat) :
    (((downCall l).between b number).run downSession).session = downSession := by
  unfold between Invoker.pause
  split <;> rfl

variable {l : Limits}

theorem downCall_outcome {r : Round Unit} (found : r.found = downSession) :
    (r.outcome (downCall l)).value = .failed downResponse true downEndpoint.address ∧
      (r.outcome (downCall l)).session = downSession := by
  rw [Round.outcome, found]
  exact downCall_attempt l r.number r.tried

theorem downCall_next {r : Round Unit} (found : r.found = downSession) (b : Budget) :
    (r.next (downCall l) b).found = downSession := by
  rw [Round.next, Round.interval, (downCall_outcome found).2]
  exact downCall_between l b r.number

theorem downCall_goesOn (atOnce : l.RetriesAtOnce) {r : Round Unit} (found : r.found = downSession)
    (left : r.number ≤ l.maxRetries.toNat) : r.GoesOn (downCall l) (.ofLimits l 0) := by
  obtain ⟨value, session⟩ := downCall_outcome (l := l) found
  refine ⟨⟨downResponse, ?_, rfl, rfl⟩, left, fun timeout limit => ?_⟩
  · rw [Round.response?, value]
    rfl
  · rw [session]
    exact (Millis.since_self_plus 0 l.pause.clockMillis).symm ▸ atOnce timeout limit

theorem downCall_elects {r : Round Unit} (found : r.found = downSession) :
    r.elects (downCall l) := by
  have got : r.response? (downCall l) = some downResponse := by
    rw [Round.response?, (downCall_outcome found).1]
    rfl
  exact Round.elects_of_response got

theorem downCall_length (atOnce : l.RetriesAtOnce) {rounds : List (Round Unit)}
    {o : Outcome Unit (Option (Response String))}
    (course : Course (downCall l) (.ofLimits l 0) none (.first downSession) rounds o) :
    rounds.length = l.maxRetries.toNat + 1 := by
  have length := course.length_eq (P := fun r => r.found = downSession)
    (fun r found => downCall_next found _) rfl
    (fun r found left => downCall_goesOn atOnce found left) (Nat.le_add_left _ _)
  simp only [Round.first, Budget.ofLimits] at length
  omega

end Down

/-- A counter of 32 bits counts the rounds of a call as long as there are fewer of them than it has
readings. It counts all calls under the same limits unless the limits let a service that is down be
called again and again until the counter is full. -/
theorem counter_counts_iff (l : Limits) :
    (∀ (σ α : Type) (c : Call σ α) (s : Session σ), c.limits = l →
      ∃ rounds, Course c (.ofLimits l s.clock) none (.first s) rounds (c.run.run s) ∧
        (Counts c (.ofLimits l s.clock) rounds (c.run.run s) ↔ rounds.length < UInt32.size)) ∧
    ((∀ (σ α : Type) (c : Call σ α) (s : Session σ), c.limits = l →
      ∃ rounds, Course c (.ofLimits l s.clock) none (.first s) rounds (c.run.run s) ∧
        Counts c (.ofLimits l s.clock) rounds (c.run.run s)) ↔
      (l.RetriesAtOnce → l.maxRetries.toNat + 1 < UInt32.size)) := by
  refine ⟨?_, ?_, ?_⟩
  · rintro σ α c s rfl
    obtain ⟨rounds, course⟩ := run_course c s
    exact ⟨rounds, course, course.counts_iff⟩
  · intro all atOnce
    obtain ⟨rounds, course, counts⟩ := all Unit String (downCall l) downSession rfl
    rw [← downCall_length atOnce course]
    exact course.counts_iff.1 counts
  · rintro fits σ α c s rfl
    obtain ⟨rounds, course⟩ := run_course c s
    exact ⟨rounds, course, course.counts_iff.2 (course.length_lt fits)⟩

-- As many retries as 32 bits can say, and no timeout.
def tireless : Limits := ⟨some { FailoverPolicy.blank with retry := some 4294967295 }, none, none⟩

theorem tireless_counter {rounds : List (Round Unit)} {o : Outcome Unit (Option (Response String))}
    (course : Course (downCall tireless) (.ofLimits tireless 0) none (.first downSession) rounds o) :
    rounds.length = UInt32.size ∧
      ∃ r, rounds[4294967295]? = some r ∧ r.elects (downCall tireless) ∧ r.counter = 0 := by
  have atOnce : tireless.RetriesAtOnce := fun timeout limit => by cases limit
  have length : rounds.length = 4294967296 := downCall_length atOnce course
  have late : 4294967295 < rounds.length := by omega
  have last := List.getElem?_eq_getElem late
  refine ⟨length, rounds[4294967295], last, ?_, ?_⟩
  · have found := course.all (P := fun r => r.found = downSession)
      (fun r found => downCall_next found _) rfl
    exact downCall_elects (found _ (List.getElem_mem late))
  · rw [Round.counter, course.number_eq _ _ last]
    rfl

theorem counter_wraps :
    tireless.maxRetries = 4294967295 ∧
      ∃ rounds, Course (downCall tireless) (.ofLimits tireless 0) none (.first downSession) rounds
          ((downCall tireless).run.run downSession) ∧
        ¬ Counts (downCall tireless) (.ofLimits tireless 0) rounds
          ((downCall tireless).run.run downSession) ∧
        ∃ r, rounds[4294967295]? = some r ∧ r.elects (downCall tireless) ∧ r.counter = 0 := by
  obtain ⟨rounds, course⟩ := run_course (downCall tireless) downSession
  obtain ⟨length, full⟩ := tireless_counter course
  refine ⟨rfl, rounds, course, fun counts => ?_, full⟩
  have few := course.counts_iff.1 counts
  rw [length] at few
  exact Nat.lt_irrefl _ few

/-- What the sink is told of a call is a well-formed account of its rounds exactly as long as there
are fewer of them than the counter has readings. It is one for all calls under the same limits unless
the limits let a service that is down be called again and again until the counter is full. -/
theorem run_reports_iff (l : Limits) :
    (∀ (σ α : Type) (c : Call σ α) (s : Session σ), c.limits = l →
      ∃ earlier final,
        Course c (.ofLimits l s.clock) none (.first s) (earlier ++ [final]) (c.run.run s) ∧
        (Reports c (.ofLimits l s.clock) earlier final (c.run.run s) ↔
          (earlier ++ [final]).length < UInt32.size)) ∧
    ((∀ (σ α : Type) (c : Call σ α) (s : Session σ), c.limits = l →
      ∃ earlier final,
        Course c (.ofLimits l s.clock) none (.first s) (earlier ++ [final]) (c.run.run s) ∧
        Reports c (.ofLimits l s.clock) earlier final (c.run.run s)) ↔
      (l.RetriesAtOnce → l.maxRetries.toNat + 1 < UInt32.size)) := by
  refine ⟨?_, ?_, ?_⟩
  · rintro σ α c s rfl
    obtain ⟨rounds, course⟩ := run_course c s
    obtain ⟨earlier, final, rfl, -, -, -⟩ := course.inOrder
    exact ⟨earlier, final, course, course.reports_iff⟩
  · intro all atOnce
    obtain ⟨earlier, final, course, reports⟩ := all Unit String (downCall l) downSession rfl
    rw [← downCall_length atOnce course]
    exact course.reports_iff.1 reports
  · rintro fits σ α c s rfl
    obtain ⟨rounds, course⟩ := run_course c s
    obtain ⟨earlier, final, rfl, -, -, -⟩ := course.inOrder
    exact ⟨earlier, final, course, course.reports_iff.2 (course.length_lt fits)⟩

theorem report_wraps :
    tireless.maxRetries = 4294967295 ∧
      ∃ earlier final,
        Course (downCall tireless) (.ofLimits tireless 0) none (.first downSession)
          (earlier ++ [final]) ((downCall tireless).run.run downSession) ∧
        ¬ Reports (downCall tireless) (.ofLimits tireless 0) earlier final
          ((downCall tireless).run.run downSession) ∧
        earlier.length = 4294967295 ∧
        numbers (final.report (downCall tireless)) = [0] := by
  obtain ⟨rounds, course⟩ := run_course (downCall tireless) downSession
  obtain ⟨earlier, final, rfl, -, -, -⟩ := course.inOrder
  obtain ⟨length, r, last, elects, empty⟩ := tireless_counter course
  have full : earlier.length + 1 = UInt32.size := by simpa using length
  have before : earlier.length = 4294967295 := Nat.succ.inj full
  obtain rfl : final = r := by simpa [← before] using last
  refine ⟨rfl, earlier, final, course, course.not_reports_of_full full, before, ?_⟩
  rw [Round.numbers_report, if_pos elects, empty]

end Governance.Call
