import Governance.Proofs.Call.Budget
import Governance.Proofs.Call.Visits

set_option autoImplicit false

namespace Governance

def Advice.complaint? (advice : Advice) (earlier : Nat) (candidates : List Endpoint) :
    Option AdviceError :=
  match advice earlier candidates with
  | .ok _ => none
  | .error e => some e

-- Among candidates the advice is asked, if there is any, and what it complains of is reported.
theorem Picker.elect_asks (p : Picker) (r : Request) {candidates : List Endpoint}
    (some : candidates ≠ []) (advice : Option Advice) (earlier : Nat) :
    (p.elect r candidates advice earlier).asked = advice.isSome ∧
      (p.elect r candidates advice earlier).adviceFailure =
        advice.bind (·.complaint? earlier candidates) := by
  cases advice with
  | none =>
    rw [elect, if_neg (by simpa using some)]
    exact ⟨rfl, rfl⟩
  | some advice =>
    rw [elect, if_neg (by simpa using some), Option.bind_some, Advice.complaint?]
    cases advice earlier candidates with
    | ok named => cases named <;> exact ⟨rfl, rfl⟩
    | error e => cases p.mode <;> exact ⟨rfl, rfl⟩

end Governance

namespace Governance.Call

variable {σ α : Type}

namespace Happening

def isTold : Happening → Bool
  | .advised _ | .emitted _ => true
  | _ => false

theorem isTold_offRecord : OffRecord isTold where
  succeeded _ := rfl
  failed _ _ := rfl
  logged _ := rfl

def event? : Happening → Option Event
  | .emitted e => some e
  | _ => none

def isAsking : Happening → Bool
  | .advised _ => true
  | _ => false

def complaint? (advice : Option Advice) (earlier : Nat) : Happening → Option AdviceError
  | .advised candidates => advice.bind (·.complaint? earlier candidates)
  | _ => none

end Happening

open Governance.Call.Flow Happening

def events (trace : List Happening) : List Event := trace.filterMap event?

-- How often the advice was asked.
def askings (trace : List Happening) : Nat := trace.countP isAsking

def complaints (advice : Option Advice) (earlier : Nat) (trace : List Happening) :
    List AdviceError :=
  trace.filterMap (complaint? advice earlier)

theorem events_append (earlier later : List Happening) :
    events (earlier ++ later) = events earlier ++ events later := List.filterMap_append

theorem complaints_append (advice : Option Advice) (earlier : Nat) (first rest : List Happening) :
    complaints advice earlier (first ++ rest) =
      complaints advice earlier first ++ complaints advice earlier rest :=
  List.filterMap_append

theorem events_emitted (es : List Event) : events (es.map .emitted) = es := by
  simp [events, List.filterMap_map, Function.comp_def, event?]

theorem complaints_emitted (advice : Option Advice) (earlier : Nat) (es : List Event) :
    complaints advice earlier (es.map .emitted) = [] := by
  simp [complaints, List.filterMap_map, Function.comp_def, complaint?]

theorem filterMap_told {β : Type} {f : Happening → Option β}
    (untold : ∀ h, isTold h = false → f h = none) (trace : List Happening) :
    (trace.filter isTold).filterMap f = trace.filterMap f := by
  rw [List.filterMap_filter]
  congr 1
  funext h
  cases told : isTold h with
  | true => rfl
  | false => exact (untold h told).symm

theorem events_told (trace : List Happening) : events (trace.filter isTold) = events trace :=
  filterMap_told (fun h untold => by cases h <;> first | rfl | cases untold) trace

theorem complaints_told (advice : Option Advice) (earlier : Nat) (trace : List Happening) :
    complaints advice earlier (trace.filter isTold) = complaints advice earlier trace :=
  filterMap_told (fun h untold => by cases h <;> first | rfl | cases untold) trace

theorem askings_append (first rest : List Happening) :
    askings (first ++ rest) = askings first + askings rest := List.countP_append

theorem askings_emitted (es : List Event) : askings (es.map .emitted) = 0 := by
  simp [askings, List.countP_map, Function.comp_def, isAsking]

theorem askings_told (trace : List Happening) : askings (trace.filter isTold) = askings trace := by
  rw [askings, List.countP_filter]
  congr 1
  funext h
  cases h <;> rfl

theorem Invoker.emit_tells (i : Invoker σ) (e : Event) :
    Shows isTold (i.emit e) [.emitted e] := by
  intro s
  change List.filter isTold (.emitted e :: (i.deliver e s).2.map .logged) = _
  simp [List.filter_cons, List.filter_map, isTold, Function.comp_def]

theorem Invoker.pause_tells (i : Invoker σ) (d : Duration) : Shows isTold (i.pause d) [] := by
  unfold pause
  split
  · exact shows_pure ()
  · exact shows_bind_nil (shows_note_hidden rfl) (fun _ => shows_change _)

theorem between_tells (c : Call σ α) (b : Budget) (number : UInt32) :
    Shows isTold (c.between b number) [.emitted (.retrying number b.interval)] :=
  shows_bind_of_nil (Invoker.emit_tells _ _) (fun _ => Invoker.pause_tells _ _)

def failureEvents (failures : List AdviceError) : List Event :=
  failures.map (fun e => .adviceFailed e.message)

-- The advice is asked about some candidates, or not asked at all; if it complains, the sink is told.
def consultation (c : Call σ α) (earlier : Nat) : Option (List Endpoint) → List Happening
  | none => []
  | some candidates =>
    .advised candidates ::
      (failureEvents (c.advice.bind (·.complaint? earlier candidates)).toList).map .emitted

theorem complaints_consultation (c : Call σ α) (earlier : Nat)
    (consulted : Option (List Endpoint)) :
    complaints c.advice earlier (c.consultation earlier consulted) =
      (consulted.bind (fun candidates => c.advice.bind (·.complaint? earlier candidates))).toList := by
  cases consulted with
  | none => rfl
  | some candidates =>
    cases complaint : c.advice.bind (·.complaint? earlier candidates) <;>
      simp [consultation, complaints, failureEvents, complaint?, complaint]

theorem events_consultation (c : Call σ α) (earlier : Nat) (consulted : Option (List Endpoint)) :
    events (c.consultation earlier consulted) =
      failureEvents (complaints c.advice earlier (c.consultation earlier consulted)) := by
  rw [complaints_consultation]
  cases consulted with
  | none => rfl
  | some candidates => exact events_emitted _

theorem askings_consultation (c : Call σ α) (earlier : Nat) (consulted : Option (List Endpoint)) :
    askings (c.consultation earlier consulted) = consulted.isSome.toNat := by
  cases consulted with
  | none => rfl
  | some candidates =>
    change askings ([.advised candidates] ++ _) = 1
    rw [askings_append, askings_emitted]
    rfl

theorem pick_tells (c : Call σ α) (earlier : Nat) {candidates : List Endpoint}
    (some : candidates ≠ []) (s : Session σ) :
    ∃ consulted, consulted.isSome = c.advice.isSome ∧
      ((c.pick earlier candidates).run s).trace.filter isTold =
        c.consultation earlier consulted := by
  unfold pick
  rw [run_session_bind]
  extract_lets picker verdict outcome report
  obtain ⟨asked, complaint⟩ := picker.elect_asks c.request some c.advice earlier
  have told (u : Unit) : Shows isTold (report u)
      ((failureEvents (c.advice.bind (·.complaint? earlier candidates)).toList).map .emitted) := by
    rw [← complaint]
    apply shows_bind_nil (log_shows isTold_offRecord _)
    intro _
    cases verdict.adviceFailure with
    | none => exact shows_pure _
    | some e => exact shows_bind_of_nil (Invoker.emit_tells _ _) (fun _ => shows_pure _)
  by_cases advised : c.advice.isSome
  · refine ⟨.some candidates, advised.symm, ?_⟩
    rw [if_pos (asked.trans advised)]
    exact shows_bind_nil (shows_change _) (fun _ => shows_bind (shows_note rfl) told) s
  · have silent : c.advice = none := by simpa using advised
    refine ⟨none, (Bool.eq_false_iff.2 advised).symm, ?_⟩
    rw [if_neg (asked ▸ advised)]
    rw [silent] at told
    exact shows_bind_nil (shows_change _) (fun _ => told ()) s

theorem elect_tells (c : Call σ α) (earlier : Nat) (tried : List String) (s : Session σ) :
    ∃ consulted, (((c.elect earlier tried).run s).value.isOk →
        consulted.isSome = c.advice.isSome) ∧
      ((c.elect earlier tried).run s).trace.filter isTold = c.consultation earlier consulted := by
  have routed : Shows isTold c.route [] :=
    shows_bind_nil (shows_note_hidden rfl) (fun _ => shows_through _)
  unfold elect
  rw [run_bind, List.filter_append, routed s, List.nil_append]
  cases (c.route.run s).value with
  | error e => exact ⟨none, nofun, rfl⟩
  | ok pool =>
    dsimp only
    rw [run_session_bind]
    cases given : c.candidates (c.route.run s).session tried pool with
    | error e => exact ⟨none, nofun, rfl⟩
    | ok candidates =>
      obtain ⟨somebody, preferred⟩ := candidates_eq_ok_iff.1 given
      have some : candidates ≠ [] := preferred ▸ preferUntried_ne_nil somebody tried
      obtain ⟨consulted, asked, picked⟩ := c.pick_tells earlier some (c.route.run s).session
      refine ⟨consulted, fun _ => asked, ?_⟩
      dsimp only
      rw [run_bind, List.filter_append, picked]
      cases ((c.pick earlier candidates).run (c.route.run s).session).value with
      | error e => exact List.append_nil _
      | ok e =>
        have looked : Shows isTold (do return .ok ⟨e, ← c.breakerFor e pool⟩ :
            Flow σ (Except GovernanceError Elected)) [] :=
          shows_bind_nil (breakerFor_shows isTold_offRecord c e pool) (fun _ => shows_pure _)
        rw [looked, List.append_nil]

def announced (c : Call σ α) (number : UInt32) : Except GovernanceError Elected → List Event
  | .ok elected => [.elected c.request.service elected.endpoint.address number]
  | .error _ => []

theorem attempt_tells (c : Call σ α) (r : Round σ) :
    (r.outcome c).trace.filter isTold =
      (r.election c).trace.filter isTold ++
        (c.announced r.counter (r.election c).value).map .emitted := by
  unfold Round.outcome attempt
  rw [run_bind, List.filter_append, ← Round.earlier, ← Round.election]
  congr 1
  cases (r.election c).value with
  | error e => rfl
  | ok elected =>
    dsimp only
    refine shows_bind_of_nil (Invoker.emit_tells _ _) (fun _ => ?_) _
    apply shows_bind_nil (acquire_shows isTold_offRecord _)
    intro admission
    cases admission with
    | ok permit => exact invoke_shows isTold_offRecord _ _ _ _
    | error refusal => exact judge_shows isTold_offRecord _ _ _ _ _

namespace Round

def complaints (c : Call σ α) (r : Round σ) : List AdviceError :=
  Call.complaints c.advice r.earlier (r.outcome c).trace

def elects (c : Call σ α) (r : Round σ) : Bool := (r.election c).value.isOk

def report (c : Call σ α) (r : Round σ) : List Event :=
  failureEvents (r.complaints c) ++ c.announced r.counter (r.election c).value

theorem told (c : Call σ α) (r : Round σ) :
    ∃ consulted, (r.elects c → consulted.isSome = c.advice.isSome) ∧
      (r.outcome c).trace.filter isTold = c.consultation r.earlier consulted ++
        (c.announced r.counter (r.election c).value).map .emitted := by
  obtain ⟨consulted, asked, elected⟩ := c.elect_tells r.earlier r.tried r.found
  exact ⟨consulted, asked, by rw [attempt_tells, election, elected]⟩

theorem askings_of_elects {c : Call σ α} {r : Round σ} (elects : r.elects c) :
    askings (r.outcome c).trace = c.advice.isSome.toNat := by
  obtain ⟨consulted, asked, told⟩ := r.told c
  rw [← askings_told, told, askings_append, askings_consultation, askings_emitted, asked elects,
    Nat.add_zero]

theorem complaints_eq (c : Call σ α) (r : Round σ) :
    ∃ consulted, r.complaints c =
        Call.complaints c.advice r.earlier (c.consultation r.earlier consulted) ∧
      events (r.outcome c).trace = events (c.consultation r.earlier consulted) ++
        c.announced r.counter (r.election c).value := by
  obtain ⟨consulted, -, told⟩ := r.told c
  refine ⟨consulted, ?_, ?_⟩
  · rw [complaints, ← complaints_told, told, complaints_append, complaints_emitted,
      List.append_nil]
  · rw [← events_told, told, events_append, events_emitted]

theorem complaints_length_le (c : Call σ α) (r : Round σ) : (r.complaints c).length ≤ 1 := by
  obtain ⟨consulted, complaints, -⟩ := r.complaints_eq c
  rw [complaints, complaints_consultation]
  exact Option.length_toList_le

theorem reported (c : Call σ α) (r : Round σ) : events (r.outcome c).trace = r.report c := by
  obtain ⟨consulted, complaints, events⟩ := r.complaints_eq c
  rw [events, report, complaints, events_consultation]

theorem unelected_of_not_elects {c : Call σ α} {r : Round σ} (not : ¬ r.elects c) :
    ∃ e, (r.election c).value = .error e := by
  cases chosen : (r.election c).value with
  | error e => exact ⟨e, rfl⟩
  | ok elected => exact absurd (by rw [elects, chosen]; rfl) not

theorem elects_of_response {c : Call σ α} {r : Round σ} {response : Response α}
    (got : r.response? c = some response) : r.elects c := by
  cases chosen : (r.election c).value with
  | ok elected => rw [elects, chosen]; rfl
  | error e =>
    rw [response?, outcome_of_unelected chosen] at got
    cases got

theorem elects_of_goesOn {c : Call σ α} {b : Budget} {r : Round σ} (more : r.GoesOn c b) :
    r.elects c := by
  obtain ⟨⟨response, got, -⟩, -⟩ := more
  exact elects_of_response got

theorem outcome_unelected_iff (c : Call σ α) (r : Round σ) (e : GovernanceError) :
    (r.outcome c).value = .unelected e ↔ (r.election c).value = .error e := by
  constructor
  · intro unelected
    cases chosen : (r.election c).value with
    | error other =>
      rw [outcome_of_unelected chosen] at unelected
      cases unelected
      rfl
    | ok elected =>
      rw [outcome, attempt, run_bind, ← earlier, ← election, chosen] at unelected
      dsimp only at unelected
      refine absurd unelected (returns_rest (P := (· ≠ Attempt.unelected e))
        (fun _ => returns_rest (fun admission => ?_)) _)
      cases admission with
      | ok permit =>
        intro s told
        have verdict := invoke_verdict c s r.counter elected.endpoint permit
        rw [told] at verdict
        cases verdict
      | error refusal =>
        refine returns_imp (judge_returns _ _ _ _ _) ?_
        rintro _ rfl told
        cases told
  · intro unelected
    rw [outcome_of_unelected unelected]

end Round

theorem toNat_made (number : UInt32) : (made number).toNat = max 1 (number.toNat - 1) := by
  unfold made
  split
  · rename_i least
    have bound : number.toNat ≤ 1 := least
    rw [UInt32.toNat_one]
    omega
  · rename_i more
    have bound : 1 ≤ number := UInt32.le_of_lt (UInt32.not_le.1 more)
    have several : ¬ number.toNat ≤ 1 := more
    rw [UInt32.toNat_sub_of_le _ _ bound, UInt32.toNat_one]
    omega

def Budget.elapsed (b : Budget) (now : Millis) : Duration := .ofMillis (now.since b.started).toNat

-- What the sink is told in the end: nothing while the caller waits for a response.
def ending (attempts : UInt32) (duration : Duration) (exhausted : Bool) :
    Option (Response α) → List Event
  | none => []
  | some response =>
    (if exhausted then [.exhausted attempts duration] else []) ++
      [if response.isSuccess then .succeeded attempts duration else .failed attempts duration]

theorem finish_tells (c : Call σ α) (b : Budget) (response : Response α) (attempts : UInt32)
    (exhausted : Bool) (s : Session σ) (fails : exhausted = true → response.isSuccess = false) :
    ((c.finish b response attempts exhausted).run s).trace.filter isTold =
      (ending attempts (b.elapsed s.clock) exhausted (some response)).map .emitted := by
  unfold finish
  rw [run_bind_after, run_now]
  extract_lets duration final
  simp only [Outcome.after, List.nil_append, ending]
  split
  · rename_i fine
    have spared : exhausted = false := by simpa [fine] using fails
    rw [if_neg (by simp [spared])]
    exact shows_bind_of_nil (Invoker.emit_tells _ _) (fun _ => shows_pure _) s
  · have failed : Shows isTold (c.invoker.emit (.failed attempts duration) >>= final)
        [.emitted (.failed attempts duration)] :=
      shows_bind_of_nil (Invoker.emit_tells _ _) (fun _ => shows_pure _)
    cases exhausted with
    | true => exact shows_bind (Invoker.emit_tells _ _) (fun _ => failed) s
    | false => exact failed s

theorem giveUp_tells (c : Call σ α) (b : Budget) (number : UInt32) (last : Option (Response α))
    (e : GovernanceError) (s : Session σ) :
    ((c.giveUp b number last e).run s).trace.filter isTold =
      (ending (made number) (b.elapsed s.clock) false
        (some (last.getD (.refused e)))).map .emitted := by
  unfold giveUp
  cases last with
  | none | some response =>
    dsimp only
    rw [run_bind, List.filter_append, log_shows isTold_offRecord, List.nil_append]
    exact finish_tells c b _ _ false s (fun not => absurd not Bool.false_ne_true)

def Attempt.countOf (number : UInt32) : Attempt α → UInt32
  | .unelected _ => made number
  | .abandoned | .succeeded _ | .failed _ _ _ => number

def Attempt.exhausts (b : Budget) : Attempt α → Bool
  | .failed _ retryable _ => retryable && b.maxRetries != 0
  | .unelected _ | .abandoned | .succeeded _ => false

theorem outOfTime_tells (b : Budget) (number : UInt32) :
    Shows (σ := σ) isTold (outOfTime b number) [] := by
  unfold outOfTime
  apply shows_bind_nil shows_now
  intro now
  split
  · exact shows_pure _
  · exact shows_bind_nil (log_shows isTold_offRecord _) (fun _ => shows_pure _)

theorem conclude_tells (c : Call σ α) (b : Budget) (number : UInt32) (retryLeft : Bool)
    (last : Option (Response α)) (a : Attempt α) (judged : a.Judged c) (s : Session σ) :
    ((c.conclude b number retryLeft last a).run s).trace.filter isTold =
      (ending (a.countOf number) (b.elapsed s.clock) (a.exhausts b) (a.answer last)).map
        .emitted := by
  cases a with
  | unelected e =>
    rw [conclude, run_map]
    exact giveUp_tells c b number last e s
  | abandoned => rfl
  | succeeded response =>
    rw [conclude, run_map]
    exact finish_tells c b response number false s (fun not => absurd not Bool.false_ne_true)
  | failed response retryable address =>
    have finished (exhausted : Bool) := finish_tells c b response number exhausted s
      (fun _ => judged.1)
    cases retryable with
    | false =>
      rw [conclude, run_map]
      exact finished false
    | true =>
      have ends := finished (b.maxRetries != 0)
      rw [← run_map_trace some] at ends
      rw [conclude]
      split
      · rw [run_bind, List.filter_append, outOfTime_tells, outOfTime_session]
        exact ends
      · exact ends

namespace Round

def Exhausts (c : Call σ α) (b : Budget) (r : Round σ) : Prop :=
  (∃ response, r.response? c = some response ∧ response.isSuccess = false ∧
    c.adapter.isRetryable response c.limits.retry) ∧
  ¬ b.AllowsRetry r.number (r.outcome c).session.clock ∧ 0 < b.maxRetries

theorem exhausts_iff {c : Call σ α} {b : Budget} {r : Round σ} (stops : ¬ r.GoesOn c b) :
    (r.outcome c).value.exhausts b = true ↔ r.Exhausts c b := by
  rw [goesOn_iff] at stops
  have judged := r.judged c
  unfold Exhausts response?
  generalize (r.outcome c).value = value at stops judged
  cases value with
  | unelected e => simp [Attempt.exhausts, Attempt.response?]
  | abandoned => simp [Attempt.exhausts, Attempt.response?]
  | succeeded response =>
    have fine : response.isSuccess = true := judged
    simp [Attempt.exhausts, Attempt.response?, fine]
  | failed response retryable address =>
    obtain ⟨failed, told⟩ := judged
    have refused : retryable = true → ¬ b.AllowsRetry r.number (r.outcome c).session.clock := by
      rintro rfl allowed
      exact stops ⟨response, address, rfl, allowed⟩
    simpa [Attempt.exhausts, Attempt.response?, failed, ← told, UInt32.pos_iff_ne_zero] using
      fun worthIt _ => refused worthIt

theorem toNat_countOf (c : Call σ α) {r : Round σ} (fits : r.number < UInt32.size)
    (counted : 0 < r.number) :
    ((r.outcome c).value.countOf r.counter).toNat =
      max 1 (if r.elects c then r.number else r.number - 1) := by
  have reads : r.counter.toNat = r.number := counter_toNat fits
  cases chosen : (r.election c).value with
  | error e =>
    rw [outcome_of_unelected chosen, elects, chosen, Attempt.countOf, toNat_made, reads]
    simp [Except.isOk, Except.toBool]
  | ok elected =>
    have counts : (r.outcome c).value.countOf r.counter = r.counter := by
      cases value : (r.outcome c).value with
      | unelected e =>
        rw [outcome_unelected_iff, chosen] at value
        cases value
      | abandoned => rfl
      | succeeded response => rfl
      | failed response retryable address => rfl
    rw [counts, reads, elects, chosen, Except.isOk, Except.toBool, if_pos rfl]
    omega

theorem closes {c : Call σ α} {b : Budget} {r : Round σ} (stops : ¬ r.GoesOn c b)
    (last : Option (Response α)) :
    ∃ exhausted : Bool, (exhausted = true ↔ r.Exhausts c b) ∧
      events (r.close c b last).trace =
        ending ((r.outcome c).value.countOf r.counter) (b.elapsed (r.outcome c).session.clock)
          exhausted (r.close c b last).value := by
  have told := conclude_tells c b r.counter (r.number ≤ b.maxRetries.toNat) last _ (r.judged c)
    (r.outcome c).session
  refine ⟨_, exhausts_iff stops, ?_⟩
  rw [close_value, close, ← events_told, told, events_emitted]

end Round

-- A round that is followed by another one has elected, so only the last may lack an endpoint, and
-- only the last can end with the retries used up.
theorem Course.inOrder {c : Call σ α} {b : Budget} {last : Option (Response α)} {r : Round σ}
    {rounds : List (Round σ)} {o : Outcome σ (Option (Response α))}
    (course : Course c b last r rounds o) :
    ∃ earlier final, rounds = earlier ++ [final] ∧ (∀ r ∈ earlier, r.elects c) ∧
      (∃ before, o.value = (final.outcome c).value.answer before) ∧
      ∃ exhausted : Bool, (exhausted = true ↔ final.Exhausts c b) ∧
        events o.trace =
          earlier.flatMap (fun r => r.report c ++ [.retrying r.counter b.interval]) ++
            final.report c ++
            ending ((final.outcome c).value.countOf final.counter)
              (b.elapsed (final.outcome c).session.clock) exhausted o.value := by
  induction course with
  | @ends last r stops =>
    obtain ⟨exhausted, exhausts, closed⟩ := Round.closes stops last
    refine ⟨[], r, rfl, List.forall_mem_nil _, ⟨last, r.close_value c b last⟩, exhausted, exhausts,
      ?_⟩
    change events ((r.outcome c).trace ++ (r.close c b last).trace) = _
    rw [events_append, r.reported, closed]
    rfl
  | @goesOn last r rounds o more later previous =>
    obtain ⟨earlier, final, rfl, elected, answered, exhausted, exhausts, told⟩ := previous
    refine ⟨r :: earlier, final, rfl, ?_, answered, exhausted, exhausts, ?_⟩
    · exact List.forall_mem_cons.2 ⟨Round.elects_of_goesOn more, elected⟩
    · have retried : events (r.interval c b).trace = [.retrying r.counter b.interval] := by
        rw [Round.interval, ← events_told, between_tells]
        rfl
      change events ((r.outcome c).trace ++ (r.interval c b).trace ++ o.trace) = _
      rw [events_append, events_append, r.reported, retried, told]
      simp only [List.flatMap_cons, List.append_assoc]
      rfl

def tracesOf (c : Call σ α) (rounds : List (Round σ)) : List Happening :=
  rounds.flatMap (fun r => (r.outcome c).trace)

-- Every round that goes on has asked the advice once.
theorem Course.asked_before {c : Call σ α} {b : Budget} {s : Session σ} {rounds : List (Round σ)}
    {o : Outcome σ (Option (Response α))} (course : Course c b none (.first s) rounds o)
    (advised : c.advice.isSome) (k : Nat) (r : Round σ) (made : rounds[k]? = some r) :
    askings (c.tracesOf (rounds.take k)) = r.earlier := by
  obtain ⟨inside, -⟩ := List.getElem?_eq_some_iff.1 made
  have few := course.rounds_le
  have bound := b.maxRetries.toNat_lt
  rw [Round.earlier_eq (course.number_eq k r made) (by simp only [UInt32.size]; omega)]
  refine course.at_each (P := fun k _ => askings (c.tracesOf (rounds.take k)) = k) rfl ?_ k r made
  intro k one made more asked
  have once := Round.askings_of_elects (Round.elects_of_goesOn more)
  rw [advised] at once
  rw [List.take_add_one, made, tracesOf, List.flatMap_append, askings_append, ← tracesOf, asked]
  simpa using once

-- What the sink is told of a call, with the numbers that the counter reads: what is reported of
-- each round, the retry between two rounds, and the ending after so many attempts.
structure Tells (c : Call σ α) (b : Budget) (earlier : List (Round σ)) (final : Round σ)
    (attempts : UInt32) (o : Outcome σ (Option (Response α))) : Prop where
  elected : ∀ r ∈ earlier, r.elects c
  complaints : ∀ r ∈ earlier ++ [final], (r.complaints c).length ≤ 1
  -- The advice complains as it does when it was asked so often before.
  asked : c.advice.isSome → ∀ k r, (earlier ++ [final])[k]? = some r →
    askings (c.tracesOf ((earlier ++ [final]).take k)) = r.earlier
  inOrder : ∃ exhausted : Bool, (exhausted = true ↔ final.Exhausts c b) ∧
    events o.trace =
      earlier.flatMap (fun r => r.report c ++ [.retrying r.counter b.interval]) ++
        final.report c ++
        ending attempts (b.elapsed (final.outcome c).session.clock) exhausted o.value
  ends : (∀ e s, (c.adapter.invoke c.request e s).1 ≠ none) → o.value ≠ none

structure Reports (c : Call σ α) (b : Budget) (earlier : List (Round σ)) (final : Round σ)
    (o : Outcome σ (Option (Response α))) : Prop where
  numbered : ∀ k r, (earlier ++ [final])[k]? = some r → r.elects c → r.counter.toNat = k + 1
  told : ∃ attempts : UInt32, Tells c b earlier final attempts o ∧
    attempts.toNat = max 1 ((earlier ++ [final]).countP (·.elects c))

end Governance.Call
