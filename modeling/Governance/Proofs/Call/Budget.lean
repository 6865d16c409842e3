import Governance.Proofs.Call.Rounds

set_option autoImplicit false

namespace Governance.Call

variable {σ α : Type}

open Governance.Call.Flow

theorem finish_steady (c : Call σ α) (b : Budget) (response : Response α) (attempts : UInt32)
    (exhausted : Bool) : Steady (c.finish b response attempts exhausted) := by
  unfold finish
  apply shows_bind_nil shows_now
  intro now
  extract_lets duration final
  split
  · exact shows_bind_nil (Invoker.emit_steady _ _) (fun _ => shows_pure _)
  · split
    · apply shows_bind_nil (Invoker.emit_steady _ _)
      intro _
      exact shows_bind_nil (Invoker.emit_steady _ _) (fun _ => shows_pure _)
    · exact shows_bind_nil (Invoker.emit_steady _ _) (fun _ => shows_pure _)

theorem finish_returns (c : Call σ α) (b : Budget) (response : Response α) (attempts : UInt32)
    (exhausted : Bool) : Returns (· = response) (c.finish b response attempts exhausted) := by
  unfold finish
  apply returns_rest
  intro now
  extract_lets duration final
  split
  · exact returns_rest (fun _ => returns_pure rfl)
  · split
    · apply returns_rest
      intro _
      exact returns_rest (fun _ => returns_pure rfl)
    · exact returns_rest (fun _ => returns_pure rfl)

theorem giveUp_steady (c : Call σ α) (b : Budget) (number : UInt32) (last : Option (Response α))
    (e : GovernanceError) : Steady (c.giveUp b number last e) := by
  cases last with
  | none => exact shows_bind_nil (log_steady _) (fun _ => finish_steady _ _ _ _ _)
  | some response => exact shows_bind_nil (log_steady _) (fun _ => finish_steady _ _ _ _ _)

theorem giveUp_returns (c : Call σ α) (b : Budget) (number : UInt32) (last : Option (Response α))
    (e : GovernanceError) :
    Returns (· = last.getD (.refused e)) (c.giveUp b number last e) := by
  cases last with
  | none => exact returns_rest (fun _ => finish_returns _ _ _ _ _)
  | some response => exact returns_rest (fun _ => finish_returns _ _ _ _ _)

theorem outOfTime_steady (b : Budget) (number : UInt32) : Steady (σ := σ) (outOfTime b number) := by
  unfold outOfTime
  apply shows_bind_nil shows_now
  intro now
  split
  · exact shows_pure _
  · exact shows_bind_nil (log_steady _) (fun _ => shows_pure _)

theorem conclude_steady (c : Call σ α) (b : Budget) (number : UInt32) (retryLeft : Bool)
    (last : Option (Response α)) (a : Attempt α) : Steady (c.conclude b number retryLeft last a) := by
  unfold conclude
  split
  · exact shows_map _ (giveUp_steady _ _ _ _ _)
  · exact shows_pure _
  · exact shows_map _ (finish_steady _ _ _ _ _)
  · exact shows_map _ (finish_steady _ _ _ _ _)
  · rename_i response _
    extract_lets ending
    have steady : Steady ending := shows_map _ (finish_steady _ _ _ _ _)
    split
    · exact shows_bind_nil (outOfTime_steady _ _) (fun _ => steady)
    · exact steady

theorem between_shows (c : Call σ α) (b : Budget) (number : UInt32) :
    Shows Happening.isPace (c.between b number) (Invoker.pauses b.interval) :=
  shows_bind_nil (Invoker.emit_steady _ _) (fun _ => Invoker.pause_shows _ _)

def Attempt.answer (last : Option (Response α)) : Attempt α → Option (Response α)
  | .unelected e => some (last.getD (.refused e))
  | .abandoned => none
  | .succeeded response | .failed response _ _ => some response

theorem conclude_returns (c : Call σ α) (b : Budget) (number : UInt32) (retryLeft : Bool)
    (last : Option (Response α)) (a : Attempt α) :
    Returns (· = a.answer last) (c.conclude b number retryLeft last a) := by
  unfold conclude
  split
  · exact returns_map (giveUp_returns _ _ _ _ _) (fun _ same => by rw [same]; rfl)
  · exact returns_pure rfl
  · exact returns_map (finish_returns _ _ _ _ _) (fun _ same => by rw [same]; rfl)
  · exact returns_map (finish_returns _ _ _ _ _) (fun _ same => by rw [same]; rfl)
  · extract_lets ending
    have answers : Returns (· = some _) ending :=
      returns_map (finish_returns _ _ _ _ _) (fun _ same => by rw [same])
    split
    · exact returns_rest (fun _ => answers)
    · exact answers

theorem Round.close_steady (c : Call σ α) (b : Budget) (last : Option (Response α)) (r : Round σ) :
    (r.close c b last).trace.filter Happening.isPace = [] := conclude_steady _ _ _ _ _ _ _

theorem Round.close_value (c : Call σ α) (b : Budget) (last : Option (Response α)) (r : Round σ) :
    (r.close c b last).value = (r.outcome c).value.answer last := conclude_returns _ _ _ _ _ _ _

theorem Round.response_verbatim (c : Call σ α) (r : Round σ) (response : Response α)
    (got : r.response? c = some response) :
    (∃ e s, (c.adapter.invoke c.request e s).1 = some response) ∨
      ∃ key, response = .refused (.circuitOpen key) := by
  have answered := r.answered c
  unfold Round.response? at got
  generalize (r.outcome c).value = value at answered got
  cases value with
  | unelected e => cases got
  | abandoned => cases got
  | succeeded own =>
    cases got
    exact .inl answered
  | failed own retryable address =>
    cases got
    exact answered

namespace Course

variable {c : Call σ α} {b : Budget} {last : Option (Response α)} {r : Round σ}
  {rounds : List (Round σ)} {o : Outcome σ (Option (Response α))}

theorem nonempty (course : Course c b last r rounds o) : ∃ later, rounds = r :: later := by
  cases course with
  | ends stops => exact ⟨[], rfl⟩
  | goesOn more rest => exact ⟨_, rfl⟩

theorem linked (course : Course c b last r rounds o) (k : Nat) (earlier later : Round σ)
    (first : rounds[k]? = some earlier) (second : rounds[k + 1]? = some later) :
    later = earlier.next c b := by
  induction course generalizing k with
  | ends stops => simp at second
  | goesOn more rest previous =>
    cases k with
    | zero =>
      obtain ⟨others, rfl⟩ := rest.nonempty
      cases first
      cases second
      rfl
    | succ k => exact previous k first second

theorem goesOn_iff (course : Course c b last r rounds o) (k : Nat) (reached : Round σ)
    (made : rounds[k]? = some reached) : k + 1 < rounds.length ↔ reached.GoesOn c b := by
  induction course generalizing k with
  | ends stops =>
    cases k with
    | zero =>
      cases made
      simp [stops]
    | succ k => simp at made
  | goesOn more rest previous =>
    cases k with
    | zero =>
      obtain ⟨others, rfl⟩ := rest.nonempty
      cases made
      simp [more]
    | succ k =>
      rw [← previous k made, List.length_cons]
      omega

theorem at_each (course : Course c b last r rounds o) {P : Nat → Round σ → Prop} (start : P 0 r)
    (step : ∀ k one, rounds[k]? = some one → one.GoesOn c b → P k one → P (k + 1) (one.next c b))
    (k : Nat) (reached : Round σ) (made : rounds[k]? = some reached) : P k reached := by
  induction k generalizing reached with
  | zero =>
    obtain ⟨later, rfl⟩ := course.nonempty
    cases made
    exact start
  | succ k previous =>
    obtain ⟨inside, -⟩ := List.getElem?_eq_some_iff.1 made
    have before : rounds[k]? = some rounds[k] := List.getElem?_eq_getElem (Nat.lt_of_succ_lt inside)
    rw [course.linked k _ reached before made]
    exact step k _ before ((course.goesOn_iff k _ before).1 inside) (previous _ before)

theorem numbered (course : Course c b last r rounds o) (k : Nat) (later : Round σ)
    (made : rounds[k]? = some later) : later.number = r.number + k :=
  course.at_each (P := fun k one => one.number = r.number + k) rfl
    (fun _ _ _ _ number => congrArg (· + 1) number) k later made

theorem length_le (course : Course c b last r rounds o)
    (counted : r.number ≤ b.maxRetries.toNat + 1) :
    r.number + rounds.length ≤ b.maxRetries.toNat + 2 := by
  induction course with
  | ends stops =>
    simp only [List.length_singleton]
    omega
  | @goesOn last r rounds o more rest previous =>
    have retryLeft := more.2.1
    have later : r.number + 1 + rounds.length ≤ b.maxRetries.toNat + 2 :=
      previous (Nat.succ_le_succ retryLeft)
    rw [List.length_cons]
    omega

theorem number_eq {s : Session σ} (course : Course c b none (.first s) rounds o) (k : Nat)
    (reached : Round σ) (made : rounds[k]? = some reached) : reached.number = k + 1 := by
  rw [course.numbered k reached made]
  exact Nat.add_comm _ _

theorem rounds_le {s : Session σ} (course : Course c b none (.first s) rounds o) :
    rounds.length ≤ b.maxRetries.toNat + 1 := by
  have length := course.length_le (Nat.le_add_left _ _)
  simp only [Round.first] at length
  omega

theorem paced (course : Course c b last r rounds o) :
    o.trace.filter Happening.isPace =
      (Invoker.pauses b.interval).intercalate (List.replicate rounds.length [.routed]) := by
  induction course with
  | @ends last r stops =>
    change List.filter _ ((r.outcome c).trace ++ (r.close c b last).trace) = _
    rw [List.filter_append, r.close_steady, Round.outcome, attempt_shows]
    rfl
  | @goesOn last r rounds o more rest previous =>
    obtain ⟨later, rfl⟩ := rest.nonempty
    change List.filter _ ((r.outcome c).trace ++ (r.interval c b).trace ++ o.trace) = _
    rw [List.filter_append, List.filter_append, Round.outcome, attempt_shows, Round.interval,
      between_shows, previous]
    simp only [List.length_cons, List.replicate_succ, List.intercalate, List.intersperse_cons_cons,
      List.flatten_cons, List.append_assoc]

theorem answers (course : Course c b last r rounds o) (response : Response α)
    (given : o.value = some response) :
    (last.toList ++ rounds.filterMap (Round.response? c)).getLast? = some response ∨
      last = none ∧ ∃ e, rounds = [r] ∧ (r.outcome c).value = .unelected e ∧
        response = .refused e := by
  induction course with
  | @ends last r stops =>
    have told : (r.outcome c).value.answer last = some response :=
      (r.close_value c b last).symm.trans given
    have own : [r].filterMap (Round.response? c) = (r.outcome c).value.response?.toList := by
      cases got : (r.outcome c).value.response? <;> simp [Round.response?, got]
    rw [own]
    generalize (r.outcome c).value = value at told
    cases value with
    | unelected e =>
      cases last with
      | none =>
        cases told
        exact .inr ⟨rfl, e, rfl, rfl, rfl⟩
      | some previous =>
        cases told
        exact .inl rfl
    | abandoned => cases told
    | succeeded own =>
      cases told
      exact .inl (by simp [Attempt.response?])
    | failed own retryable address =>
      cases told
      exact .inl (by simp [Attempt.response?])
  | @goesOn last r rounds o more rest previous =>
    obtain ⟨⟨own, got, failed⟩, inBudget⟩ := more
    obtain found | ⟨none, found⟩ := previous given
    · left
      rw [got] at found
      rw [List.filterMap_cons, got]
      simpa using found
    · rw [got] at none
      cases none

theorem ends_of_answering (course : Course c b last r rounds o)
    (answering : ∀ e s, (c.adapter.invoke c.request e s).1 ≠ none) : o.value ≠ none := by
  induction course with
  | @ends last r stops =>
    have answered := r.answered c
    change (r.close c b last).value ≠ _
    rw [Round.close_value]
    generalize (r.outcome c).value = value at answered
    cases value with
    | abandoned =>
      obtain ⟨e, s, silent⟩ := answered
      exact absurd silent (answering e s)
    | unelected e => nofun
    | succeeded response => nofun
    | failed response retryable address => nofun
  | goesOn more rest previous => exact previous

end Course

structure KeepsBudget (c : Call σ α) (b : Budget) (rounds : List (Round σ))
    (o : Outcome σ (Option (Response α))) : Prop where
  bounded : rounds.length ≤ b.maxRetries.toNat + 1
  numbered : ∀ k r, rounds[k]? = some r → r.number = k + 1
  linked : ∀ k r later, rounds[k]? = some r → rounds[k + 1]? = some later → later = r.next c b
  goesOn : ∀ k r, rounds[k]? = some r → (k + 1 < rounds.length ↔ r.GoesOn c b)
  paced : o.trace.filter Happening.isPace =
    (Invoker.pauses b.interval).intercalate (List.replicate rounds.length [.routed])
  answers : ∀ response, o.value = some response →
    (rounds.filterMap (Round.response? c)).getLast? = some response ∨
      ∃ r e, rounds = [r] ∧ (r.outcome c).value = .unelected e ∧ response = .refused e
  -- A response is the adapter's own, or the breaker opened between the election and the call.
  verbatim : ∀ r ∈ rounds, ∀ response, r.response? c = some response →
    (∃ e s, (c.adapter.invoke c.request e s).1 = some response) ∨
      ∃ key, response = .refused (.circuitOpen key)
  ends : (∀ e s, (c.adapter.invoke c.request e s).1 ≠ none) → o.value ≠ none

end Governance.Call
