import Governance.Call.Run
import Governance.Proofs.Call.Flow

set_option autoImplicit false

namespace Governance.Call

variable {σ α : Type}

namespace Happening

-- The view leaves out what is written down after the fact: how an invocation went, and the log.
structure OffRecord (view : Happening → Bool) : Prop where
  succeeded : ∀ e, view (.succeeded e) = false
  failed : ∀ e error, view (.failed e error) = false
  logged : ∀ entry, view (.logged entry) = false

structure OnDeeds (view : Happening → Bool) : Prop extends OffRecord view where
  advised : ∀ candidates, view (.advised candidates) = false
  emitted : ∀ e, view (.emitted e) = false

-- The happenings that set the pace of a call: an election begins, or a pause is asked for.
def isPace : Happening → Bool
  | .routed | .slept _ => true
  | _ => false

theorem isPace_onDeeds : OnDeeds isPace where
  succeeded _ := rfl
  failed _ _ := rfl
  logged _ := rfl
  advised _ := rfl
  emitted _ := rfl

end Happening

open Governance.Call.Flow Happening

section OffRecord

variable {view : Happening → Bool} (off : OffRecord view)
include off

theorem log_shows (entries : List Log.Entry) : Shows (σ := σ) view (log entries) [] :=
  shows_log off.logged entries

theorem register_shows (c : Call σ α) (r : Circuit.Registry) (policy : BreakerPolicy) (key : String)
    (pool : List Endpoint) : Shows view (c.register r policy key pool) [] := by
  unfold register
  extract_lets service
  split
  · exact shows_bind_nil (log_shows off _) (fun _ => shows_pure _)
  · extract_lets live pruned
    apply shows_bind_nil (shows_change _)
    intro _
    split
    · exact shows_bind_nil (log_shows off _) (fun _ => shows_pure _)
    · exact shows_pure _

theorem breakerFor_shows (c : Call σ α) (e : Endpoint) (pool : List Endpoint) :
    Shows view (c.breakerFor e pool) [] := by
  unfold breakerFor
  apply shows_bind_nil shows_session
  intro s
  extract_lets
  split
  · split
    · exact shows_pure _
    · exact register_shows off _ _ _ _ _
  · exact shows_pure _

theorem acquire_shows (breaker : Option Circuit.Handle) :
    Shows (σ := σ) view (acquire breaker) [] := by
  unfold acquire
  apply shows_bind_nil shows_session
  intro s
  split
  · split
    · exact shows_pure _
    · refine shows_bind_nil (shows_change _)
        (fun _ => shows_bind_nil (log_shows off _) (fun _ => ?_))
      split <;> exact shows_pure _
  · exact shows_pure _

theorem settle_shows (permit : Option Circuit.Permit) (outcome : Circuit.Breaker.Outcome) :
    Shows (σ := σ) view (settle permit outcome) [] := by
  unfold settle
  apply shows_bind_nil shows_session
  intro s
  split
  · exact shows_bind_nil (shows_change _) (fun _ => log_shows off _)
  · exact shows_pure _

theorem judge_shows (c : Call σ α) (attempt : UInt32) (e : Endpoint) (permit : Option Circuit.Permit)
    (response : Response α) : Shows view (c.judge attempt e permit response) [] := by
  unfold judge
  extract_lets retryable final
  apply shows_bind_nil (settle_shows off _ _)
  intro _
  split
  · apply shows_bind_nil (shows_note_hidden (off.failed _ _))
    intro _
    apply shows_bind_nil (shows_change _)
    intro _
    exact shows_bind_nil (log_shows off _) (fun _ => shows_pure _)
  · exact shows_pure _

theorem invoke_shows (c : Call σ α) (attempt : UInt32) (e : Endpoint)
    (permit : Option Circuit.Permit) :
    Shows view (c.invoke attempt e permit) ([.invoked e].filter view) := by
  unfold invoke
  apply shows_bind_nil (log_shows off _)
  intro _
  apply shows_bind_of_nil (shows_note_filter _)
  intro _
  apply shows_bind_nil (shows_through _)
  intro answer
  split
  · exact shows_bind_nil (settle_shows off _ _) (fun _ => shows_pure _)
  · split
    · apply shows_bind_nil (settle_shows off _ _)
      intro _
      apply shows_bind_nil (shows_note_hidden (off.succeeded _))
      intro _
      exact shows_bind_nil (shows_change _) (fun _ => shows_pure _)
    · exact judge_shows off _ _ _ _ _

end OffRecord

section Deeds

variable {view : Happening → Bool} (deeds : OnDeeds view)
include deeds

theorem Invoker.emit_shows (i : Invoker σ) (e : Event) : Shows view (i.emit e) [] := by
  intro s
  change List.filter view (.emitted e :: (i.deliver e s).2.map .logged) = []
  simp [deeds.emitted, deeds.logged, List.filter_eq_nil_iff]

theorem pick_shows (c : Call σ α) (earlier : Nat) (candidates : List Endpoint) :
    Shows view (c.pick earlier candidates) [] := by
  unfold pick
  apply shows_bind_nil shows_session
  intro s
  extract_lets picker verdict outcome report
  apply shows_bind_nil (shows_change _)
  intro _
  have rest (u : Unit) : Shows view (report u) [] := by
    apply shows_bind_nil (log_shows deeds.toOffRecord _)
    intro _
    split
    · exact shows_bind_nil (Invoker.emit_shows deeds _ _) (fun _ => shows_pure _)
    · exact shows_pure _
  split
  · exact shows_bind_nil (shows_note_hidden (deeds.advised _)) rest
  · exact rest ()

theorem elect_shows (c : Call σ α) (earlier : Nat) (tried : List String) :
    Shows view (c.elect earlier tried) ([.routed].filter view) := by
  unfold elect
  apply shows_bind_of_nil (shows_bind_of_nil (shows_note_filter _) (fun _ => shows_through _))
  intro routed
  split
  · exact shows_pure _
  · apply shows_bind_nil shows_session
    intro s
    split
    · exact shows_pure _
    · apply shows_bind_nil (pick_shows deeds _ _ _)
      intro _
      split
      · exact shows_pure _
      · exact shows_bind_nil (breakerFor_shows deeds.toOffRecord _ _ _) (fun _ => shows_pure _)

end Deeds

namespace Flow

abbrev Steady {β : Type} (x : Flow σ β) : Prop := Shows isPace x []

theorem log_steady (entries : List Log.Entry) : Steady (σ := σ) (log entries) :=
  log_shows isPace_onDeeds.toOffRecord entries

end Flow

namespace Invoker

theorem emit_steady (i : Invoker σ) (e : Event) : Steady (i.emit e) := emit_shows isPace_onDeeds i e

def pauses (d : Duration) : List Happening := if d = .zero then [] else [.slept d]

theorem pause_shows (i : Invoker σ) (d : Duration) : Shows isPace (i.pause d) (pauses d) := by
  unfold pause pauses
  by_cases still : d = .zero
  · simpa only [if_pos still] using shows_pure ()
  · simpa only [if_neg still] using
      shows_bind_of_nil (shows_note rfl) (fun _ => shows_change _)

end Invoker

theorem attempt_shows (c : Call σ α) (number : UInt32) (tried : List String) :
    Shows Happening.isPace (c.attempt number tried) [.routed] := by
  unfold attempt
  apply shows_bind_of_nil (elect_shows isPace_onDeeds _ _ _)
  intro elected
  split
  · exact shows_pure _
  · extract_lets e
    apply shows_bind_nil (Invoker.emit_steady _ _)
    intro _
    apply shows_bind_nil (acquire_shows isPace_onDeeds.toOffRecord _)
    intro acquired
    split
    · exact invoke_shows isPace_onDeeds.toOffRecord _ _ _ _
    · exact judge_shows isPace_onDeeds.toOffRecord _ _ _ _ _

namespace Attempt

def response? : Attempt α → Option (Response α)
  | .unelected _ | .abandoned => none
  | .succeeded response | .failed response _ _ => some response

def Judged (c : Call σ α) : Attempt α → Prop
  | .unelected _ | .abandoned => True
  | .succeeded response => response.isSuccess
  | .failed response retryable _ =>
    response.isSuccess = false ∧ retryable = c.adapter.isRetryable response c.limits.retry

-- The response is the adapter's own or tells that the breaker opened in between, and none comes
-- only if the adapter gives none.
def Answered (c : Call σ α) : Attempt α → Prop
  | .unelected _ => True
  | .abandoned => ∃ e s, (c.adapter.invoke c.request e s).1 = none
  | .succeeded response => ∃ e s, (c.adapter.invoke c.request e s).1 = some response
  | .failed response _ _ =>
    (∃ e s, (c.adapter.invoke c.request e s).1 = some response) ∨
      ∃ key, response = .refused (.circuitOpen key)

end Attempt

theorem judge_returns (c : Call σ α) (number : UInt32) (e : Endpoint)
    (permit : Option Circuit.Permit) (response : Response α) :
    Returns (fun a => a = .failed response (c.adapter.isRetryable response c.limits.retry) e.address)
      (c.judge number e permit response) := by
  unfold judge
  extract_lets retryable final
  apply returns_rest
  intro _
  split
  · apply returns_rest
    intro _
    apply returns_rest
    intro _
    exact returns_rest (fun _ => returns_pure rfl)
  · exact returns_pure rfl

theorem invoke_returns (c : Call σ α) (number : UInt32) (e : Endpoint)
    (permit : Option Circuit.Permit) :
    Returns (fun a => a.Judged c ∧ a.Answered c) (c.invoke number e permit) := by
  unfold invoke
  apply returns_rest
  intro _
  apply returns_rest
  intro _
  refine returns_bind (returns_through _) (fun answer given => ?_)
  obtain ⟨s, given⟩ := given
  cases answer with
  | none => exact returns_rest (fun _ => returns_pure ⟨trivial, e, s, given⟩)
  | some response =>
    dsimp only
    split
    · rename_i fine
      apply returns_rest
      intro _
      apply returns_rest
      intro _
      apply returns_rest
      intro _
      exact returns_pure ⟨fine, e, s, given⟩
    · rename_i failed
      refine returns_imp (judge_returns c number e permit response) ?_
      rintro _ rfl
      exact ⟨⟨by simpa using failed, rfl⟩, .inl ⟨e, s, given⟩⟩

theorem acquire_returns (breaker : Option Circuit.Handle) :
    Returns (σ := σ) (fun acquired => ∀ refusal, acquired = .error refusal →
      ∃ key, refusal = .circuitOpen key) (acquire breaker) := by
  unfold acquire
  apply returns_rest
  intro _
  split
  · split
    · exact returns_pure (fun _ => nofun)
    · rename_i b _
      apply returns_rest
      intro _
      apply returns_rest
      intro _
      split
      · exact returns_pure (fun _ => nofun)
      · refine returns_pure (fun refusal same => ⟨b.key, ?_⟩)
        cases same
        rfl
  · exact returns_pure (fun _ => nofun)

theorem attempt_returns (c : Call σ α) (number : UInt32) (tried : List String) :
    Returns (fun a => a.Judged c ∧ a.Answered c) (c.attempt number tried) := by
  unfold attempt
  apply returns_rest
  intro elected
  split
  · exact returns_pure ⟨trivial, trivial⟩
  · extract_lets e
    apply returns_rest
    intro _
    refine returns_bind (acquire_returns _) (fun acquired opened => ?_)
    split
    · exact invoke_returns _ _ _ _
    · rename_i refusal
      obtain ⟨key, rfl⟩ := opened refusal rfl
      refine returns_imp (judge_returns c number e none (.refused (.circuitOpen key))) ?_
      rintro _ rfl
      exact ⟨⟨rfl, rfl⟩, .inr ⟨key, rfl⟩⟩

end Governance.Call
