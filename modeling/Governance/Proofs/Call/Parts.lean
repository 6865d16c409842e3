import Governance.Proofs.Call.Rounds

set_option autoImplicit false

namespace Governance.Call

variable {σ α β γ : Type} {R : Session σ → Session σ → Prop}

-- The relation holds of each step that a part of the call makes: of the adapter, of pauses and of
-- the sink, and of what an election does to the balancer.
structure Parts (R : Session σ → Session σ → Prop) (c : Call σ α) : Prop where
  refl : ∀ s, R s s
  trans : ∀ {s next later}, R s next → R next later → R s later
  route : ∀ s, R s (c.adapter.route c.request s).2
  onSuccess : ∀ e s, R s (c.adapter.onSuccess c.request e s)
  onFailure : ∀ e error s, R s (c.adapter.onFailure c.request e error s)
  sleep : ∀ d s, R s (c.invoker.sleep d s)
  deliver : ∀ event s, R s (c.invoker.deliver event s).1
  balance : ∀ earlier candidates s,
    R s { s with
      balancer :=
        (Picker.elect ⟨s.balancer, c.invoker.mode⟩ c.request candidates c.advice earlier).balancer }

namespace Flow

def Leads (R : Session σ → Session σ → Prop) (x : Flow σ β) : Prop :=
  ∀ s, R s (x.run s).session

end Flow

namespace Parts

open Governance.Call.Flow

variable {c : Call σ α}

theorem pure (parts : Parts R c) (b : β) : Leads R (Pure.pure b) := parts.refl

-- The first step is judged for one session only, since what it changes may depend on it.
theorem bind_at (parts : Parts R c) {x : Flow σ β} {f : β → Flow σ γ} {s : Session σ}
    (first : R s (x.run s).session) (rest : ∀ b, Leads R (f b)) : R s ((x >>= f).run s).session :=
  parts.trans first (rest _ _)

theorem bind (parts : Parts R c) {x : Flow σ β} {f : β → Flow σ γ} (first : Leads R x)
    (rest : ∀ b, Leads R (f b)) : Leads R (x >>= f) := fun s => parts.bind_at (first s) rest

theorem map (f : β → γ) {x : Flow σ β} (own : Leads R x) : Leads R (f <$> x) := by
  intro s
  rw [run_map]
  exact own s

theorem now (parts : Parts R c) : Leads R Flow.now := parts.refl

theorem note (parts : Parts R c) (h : Happening) : Leads R (Flow.note h) := parts.refl

theorem log (parts : Parts R c) (entries : List Log.Entry) : Leads R (Flow.log entries) :=
  parts.refl

theorem emit (parts : Parts R c) (e : Event) : Leads R (c.invoker.emit e) := parts.deliver e

theorem between (parts : Parts R c) (b : Budget) (number : UInt32) :
    Leads R (c.between b number) := by
  unfold Call.between
  apply parts.bind (parts.emit _)
  intro _
  unfold Invoker.pause
  split
  · exact parts.pure _
  · exact parts.bind (parts.note _) (fun _ => parts.sleep _)

theorem finish (parts : Parts R c) (b : Budget) (response : Response α) (attempts : UInt32)
    (exhausted : Bool) : Leads R (c.finish b response attempts exhausted) := by
  unfold Call.finish
  apply parts.bind parts.now
  intro now
  extract_lets duration final
  split
  · exact parts.bind (parts.emit _) (fun _ => parts.pure _)
  · split
    · apply parts.bind (parts.emit _)
      intro _
      exact parts.bind (parts.emit _) (fun _ => parts.pure _)
    · exact parts.bind (parts.emit _) (fun _ => parts.pure _)

theorem giveUp (parts : Parts R c) (b : Budget) (number : UInt32) (last : Option (Response α))
    (e : GovernanceError) : Leads R (c.giveUp b number last e) := by
  cases last with
  | none | some response => exact parts.bind (parts.log _) (fun _ => parts.finish _ _ _ _)

theorem outOfTime (parts : Parts R c) (b : Budget) (number : UInt32) :
    Leads R (Call.outOfTime b number) := by
  unfold Call.outOfTime
  apply parts.bind parts.now
  intro now
  split
  · exact parts.pure _
  · exact parts.bind (parts.log _) (fun _ => parts.pure _)

theorem conclude (parts : Parts R c) (b : Budget) (number : UInt32) (retryLeft : Bool)
    (last : Option (Response α)) (a : Attempt α) : Leads R (c.conclude b number retryLeft last a) := by
  unfold Call.conclude
  split
  · exact map _ (parts.giveUp _ _ _ _)
  · exact parts.pure _
  · exact map _ (parts.finish _ _ _ _)
  · exact map _ (parts.finish _ _ _ _)
  · extract_lets ending
    have leads : Leads R ending := map _ (parts.finish _ _ _ _)
    split
    · exact parts.bind (parts.outOfTime _ _) (fun _ => leads)
    · exact leads

theorem interval (parts : Parts R c) (b : Budget) (r : Round σ) :
    R (r.outcome c).session (r.next c b).found := parts.between b _ _

theorem close (parts : Parts R c) (b : Budget) (last : Option (Response α)) (r : Round σ) :
    R (r.outcome c).session (r.close c b last).session := parts.conclude b _ _ last _ _

theorem listing (parts : Parts R c) : Leads R c.route :=
  parts.bind (parts.note _) (fun _ => parts.route)

theorem pick (parts : Parts R c) (earlier : Nat) (candidates : List Endpoint) :
    Leads R (c.pick earlier candidates) := by
  intro s
  unfold Call.pick
  rw [run_session_bind]
  extract_lets picker verdict outcome report
  apply parts.bind_at (parts.balance earlier candidates s)
  intro _
  have rest (u : Unit) : Leads R (report u) := by
    apply parts.bind (parts.log _)
    intro _
    split
    · exact parts.bind (parts.emit _) (fun _ => parts.pure _)
    · exact parts.pure _
  split
  · exact parts.bind (parts.note _) rest
  · exact rest ()

theorem judge (parts : Parts R c) (number : UInt32) (e : Endpoint) (permit : Option Circuit.Permit)
    (response : Response α) (s : Session σ) :
    R ((settle permit (if c.adapter.isRetryable response c.limits.retry then .failure
        else .success)).run s).session
      ((c.judge number e permit response).run s).session := by
  unfold Call.judge
  extract_lets retryable final
  have told (error : ServiceError) :
      Leads R (Flow.change (c.adapter.onFailure c.request e error)) := parts.onFailure e error
  have rest (u : Unit) : Leads R (final u) := parts.pure _
  rw [run_bind_after]
  dsimp only [Outcome.after]
  cases response.error? with
  | none => exact rest () _
  | some error =>
    apply parts.bind (parts.note _)
    intro _
    exact parts.bind (told error) (fun _ => parts.bind (parts.log _) rest)

end Parts

structure Whole (R : Session σ → Session σ → Prop) (c : Call σ α) : Prop extends Parts R c where
  invokes : ∀ e s, R s (c.adapter.invoke c.request e s).2
  breakers : ∀ s r, R s { s with breakers := r }

namespace Whole

open Governance.Call.Flow

variable {c : Call σ α}

theorem acquire (whole : Whole R c) (breaker : Option Circuit.Handle) :
    Leads R (Call.acquire breaker : Flow σ _) := by
  intro s
  unfold Call.acquire
  rw [run_session_bind]
  split
  · split
    · exact whole.refl _
    · apply whole.bind_at (whole.breakers _ _)
      intro _
      apply whole.bind (whole.log _)
      intro _
      split <;> exact whole.pure _
  · exact whole.refl _

theorem settle (whole : Whole R c) (permit : Option Circuit.Permit)
    (outcome : Circuit.Breaker.Outcome) : Leads R (Call.settle permit outcome : Flow σ _) := by
  intro s
  unfold Call.settle
  rw [run_session_bind]
  split
  · exact whole.bind_at (whole.breakers _ _) (fun _ => whole.log _)
  · exact whole.refl _

theorem breakerFor (whole : Whole R c) (e : Endpoint) (pool : List Endpoint) :
    Leads R (c.breakerFor e pool) := by
  intro s
  unfold Call.breakerFor
  rw [run_session_bind]
  split
  · extract_lets key
    split
    · exact whole.refl _
    · unfold Call.register
      split
      · exact whole.bind (whole.log _) (fun _ => whole.pure _) s
      · apply whole.bind_at (whole.breakers _ _)
        intro _
        split
        · exact whole.bind (whole.log _) (fun _ => whole.pure _)
        · exact whole.pure _
  · exact whole.refl _

theorem elect (whole : Whole R c) (earlier : Nat) (tried : List String) :
    Leads R (c.elect earlier tried) := by
  unfold Call.elect
  apply whole.bind whole.listing
  intro routed
  cases routed with
  | error e => exact whole.pure _
  | ok pool =>
    intro s
    dsimp only
    rw [run_session_bind]
    cases c.candidates s tried pool with
    | error e => exact whole.refl _
    | ok candidates =>
      apply whole.bind (whole.pick earlier candidates)
      intro picked
      cases picked with
      | error e => exact whole.pure _
      | ok e => exact whole.bind (whole.breakerFor e pool) (fun _ => whole.pure _)

end Whole

end Governance.Call
