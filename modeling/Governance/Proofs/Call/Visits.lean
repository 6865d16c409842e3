import Governance.Proofs.Call.Chosen
import Governance.Proofs.Circuit.Machines

set_option autoImplicit false

namespace Governance.Call

variable {σ α : Type}

open Governance.Call.Flow Governance.Circuit

def Happening.isInvocation : Happening → Bool
  | .invoked _ => true
  | _ => false

theorem Happening.isInvocation_onDeeds : OnDeeds isInvocation where
  succeeded _ := rfl
  failed _ _ := rfl
  logged _ := rfl
  advised _ := rfl
  emitted _ := rfl

def told (c : Call σ α) : Option (Response α) → Breaker.Outcome
  | none => .dropped
  | some response =>
    if response.isSuccess then .success
    else if c.adapter.isRetryable response c.limits.retry then .failure
    else .success

def Attempt.verdict? : Attempt α → Option Breaker.Outcome
  | .unelected _ => none
  | .abandoned => some .dropped
  | .succeeded _ => some .success
  | .failed _ retryable _ => some (if retryable then .failure else .success)

theorem told_of_failed {c : Call σ α} {response : Response α}
    (failed : response.isSuccess = false) :
    c.told (some response) =
      if c.adapter.isRetryable response c.limits.retry then .failure else .success := by
  simp [told, failed]

theorem Parts.invoke {R : Session σ → Session σ → Prop} {c : Call σ α} (parts : Parts R c)
    (number : UInt32) (e : Endpoint) (permit : Option Permit) (s : Session σ) :
    R ((settle permit (c.told (c.adapter.invoke c.request e s).1)).run
        (c.adapter.invoke c.request e s).2).session
      ((c.invoke number e permit).run s).session := by
  have told : Leads R (Flow.change (c.adapter.onSuccess c.request e)) := parts.onSuccess e
  unfold Call.invoke
  rw [run_bind_after, run_log, run_bind_after, run_note, run_bind_after, run_through]
  obtain ⟨_ | response, s₁⟩ := c.adapter.invoke c.request e s
  · exact parts.refl _
  · dsimp only [Outcome.after]
    by_cases fine : response.isSuccess
    · rw [if_pos fine, Call.told, if_pos fine, run_bind_after]
      exact parts.bind (parts.note _) (fun _ => parts.bind told (fun _ => parts.pure _)) _
    · rw [if_neg fine, told_of_failed (by simpa using fine)]
      exact parts.judge number e permit response s₁

namespace Round

def election (c : Call σ α) (r : Round σ) : Outcome σ (Except GovernanceError Elected) :=
  (c.elect r.earlier r.tried).run r.found

def announcement (c : Call σ α) (r : Round σ) (elected : Elected) : Outcome σ Unit :=
  (c.invoker.emit (.elected c.request.service elected.endpoint.address r.counter)).run
    (r.election c).session

def admission (c : Call σ α) (r : Round σ) (elected : Elected) :
    Outcome σ (Except GovernanceError (Option Permit)) :=
  (acquire elected.breaker).run (r.announcement c elected).session

def answer (c : Call σ α) (r : Round σ) (elected : Elected) : Option (Response α) × Session σ :=
  c.adapter.invoke c.request elected.endpoint (r.admission c elected).session

def visit (c : Call σ α) (r : Round σ) (p : BreakerPolicy) (elected : Elected) : Visit where
  endpoint := elected.endpoint
  policy := p
  asked := (r.announcement c elected).session.clock
  outcome := c.told (r.answer c elected).1
  told := (r.answer c elected).2.clock

-- There is no visit if nobody is elected, or if the breaker opened since.
def visit? (c : Call σ α) (r : Round σ) : Option Visit :=
  match (r.election c).value, c.limits.breaker with
  | .ok elected, some p =>
    match (r.admission c elected).value with
    | .ok _ => some (r.visit c p elected)
    | .error _ => none
  | _, _ => none

theorem visit?_of_unelected {c : Call σ α} {r : Round σ} {e : GovernanceError}
    (unelected : (r.election c).value = .error e) : r.visit? c = none := by
  unfold visit?
  rw [unelected]

theorem visit?_of_admitted {c : Call σ α} {r : Round σ} {elected : Elected} {p : BreakerPolicy}
    {permit : Option Permit} (chosen : (r.election c).value = .ok elected)
    (policy : c.limits.breaker = some p) (admitted : (r.admission c elected).value = .ok permit) :
    r.visit? c = some (r.visit c p elected) := by
  unfold visit?
  rw [chosen, policy]
  dsimp only
  rw [admitted]

theorem outcome_of_unelected {c : Call σ α} {r : Round σ} {e : GovernanceError}
    (unelected : (r.election c).value = .error e) :
    r.outcome c = ⟨.unelected e, (r.election c).session, (r.election c).trace⟩ := by
  unfold outcome attempt
  rw [run_bind, ← earlier, ← election, unelected]
  simp [run_pure]

theorem outcome_of_admitted {c : Call σ α} {r : Round σ} {elected : Elected}
    {permit : Option Permit} (chosen : (r.election c).value = .ok elected)
    (admitted : (r.admission c elected).value = .ok permit) :
    r.outcome c =
      ((c.invoke r.counter elected.endpoint permit).run (r.admission c elected).session).after
        ((r.election c).trace ++ ((r.announcement c elected).trace ++
          (r.admission c elected).trace)) := by
  unfold outcome attempt
  rw [run_bind_after, ← earlier, ← election, chosen]
  dsimp only
  rw [run_bind_after, ← announcement, run_bind_after, ← admission, admitted]
  simp only [Outcome.after_after]

theorem invocations_of_unelected {c : Call σ α} {r : Round σ} {e : GovernanceError}
    (unelected : (r.election c).value = .error e) :
    (r.outcome c).trace.filter Happening.isInvocation = [] := by
  rw [outcome_of_unelected unelected]
  exact elect_shows Happening.isInvocation_onDeeds c r.earlier r.tried r.found

theorem invocations_of_admitted {c : Call σ α} {r : Round σ} {elected : Elected}
    {permit : Option Permit} (chosen : (r.election c).value = .ok elected)
    (admitted : (r.admission c elected).value = .ok permit) :
    (r.outcome c).trace.filter Happening.isInvocation = [.invoked elected.endpoint] := by
  have deeds := Happening.isInvocation_onDeeds
  have election : (r.election c).trace.filter Happening.isInvocation = [] :=
    elect_shows deeds c r.earlier r.tried r.found
  have announcement : (r.announcement c elected).trace.filter Happening.isInvocation = [] :=
    Invoker.emit_shows deeds _ _ _
  have admission : (r.admission c elected).trace.filter Happening.isInvocation = [] :=
    acquire_shows deeds.toOffRecord _ _
  rw [outcome_of_admitted chosen admitted, Outcome.after, List.filter_append, List.filter_append,
    List.filter_append, election, announcement, admission, invoke_shows deeds.toOffRecord]
  rfl

end Round

theorem Parts.afterElection {R : Session σ → Session σ → Prop} {c : Call σ α} (parts : Parts R c)
    (invokes : ∀ e s, R s (c.adapter.invoke c.request e s).2)
    (acquires : ∀ breaker, Leads R (acquire breaker : Flow σ _))
    (settles : ∀ permit outcome, Leads R (settle permit outcome : Flow σ _)) (r : Round σ) :
    R (r.election c).session (r.outcome c).session := by
  cases chosen : (r.election c).value with
  | error e =>
    rw [Round.outcome_of_unelected chosen]
    exact parts.refl _
  | ok elected =>
    rw [Round.outcome, attempt, run_bind_after, ← Round.earlier, ← Round.election, chosen]
    dsimp only [Outcome.after]
    apply parts.bind (parts.emit _)
    intro _
    apply parts.bind (acquires _)
    intro admission
    cases admission with
    | ok permit =>
      exact fun s => parts.trans (parts.trans (invokes _ s) (settles _ _ _))
        (parts.invoke r.counter elected.endpoint permit s)
    | error refusal =>
      exact fun s => parts.trans (settles _ _ s) (parts.judge r.counter _ none _ s)

theorem Whole.attempt {R : Session σ → Session σ → Prop} {c : Call σ α} (whole : Whole R c)
    (r : Round σ) : R r.found (r.outcome c).session :=
  whole.trans (whole.elect r.earlier r.tried r.found)
    (whole.toParts.afterElection whole.invokes whole.acquire whole.settle r)

section Session

variable {scene : Millis → σ → Prop} {service : String} {addresses : List String}
  {machines : String → Option Machine} {s later : Session σ}

def Session.Tracks (s : Session σ) (service : String) (addresses : List String)
    (machines : String → Option Machine) : Prop :=
  ∃ r, s.breakers = some r ∧ r.Tracks service addresses machines

theorem Session.Tracks.undisturbed (tracks : s.Tracks service addresses machines)
    (undisturbed : Undisturbed scene s later) : later.Tracks service addresses machines := by
  obtain ⟨r, held, tracks⟩ := tracks
  exact ⟨r, undisturbed.breakers_eq.trans held, tracks⟩

structure Session.InStep (scene : Millis → σ → Prop) (service : String) (addresses : List String)
    (visits : List Visit) (s : Session σ) : Prop where
  fair : s.Fair scene
  tracks : s.Tracks service addresses (machine? visits)

theorem Session.InStep.undisturbed {visits : List Visit}
    (inStep : s.InStep scene service addresses visits)
    (undisturbed : Undisturbed scene s later) : later.InStep scene service addresses visits :=
  ⟨undisturbed.fair, inStep.tracks.undisturbed undisturbed⟩

structure Ready (scene : Millis → σ → Prop) (service : String) (addresses : List String)
    (machines : String → Option Machine) (p : BreakerPolicy) (address : String)
    (breaker : Option Handle) (s : Session σ) : Prop where
  fair : s.Fair scene
  admits : ((machines address).getD (.new p)).Admits s.clock
  held : ∃ r h, s.breakers = some r ∧ breaker = some h ∧
    r.get? (Registry.endpointKey service address) = some h ∧
    r.Tracks service addresses
      (Function.update machines address (some ((machines address).getD (.new p))))

theorem Ready.undisturbed {p : BreakerPolicy} {address : String} {breaker : Option Handle}
    (ready : Ready scene service addresses machines p address breaker s)
    (undisturbed : Undisturbed scene s later) :
    Ready scene service addresses machines p address breaker later where
  fair := undisturbed.fair
  admits := Machine.admits_mono undisturbed.clock_le ready.admits
  held := by
    rw [undisturbed.breakers_eq]
    exact ready.held

end Session

section Election

variable {scene : Millis → σ → Prop} {service : String} {addresses : List String}
  {machines : String → Option Machine} {c : Call σ α} {s : Session σ} {p : BreakerPolicy}
  {config : Config} {e : Endpoint} {pool : List Endpoint}

theorem admits_of_not_isOpen (tracks : s.Tracks service addresses machines) {m : Machine}
    (machine : machines e.address = some m) (passes : isOpen s service (some p) e = false) :
    m.Admits s.clock := by
  obtain ⟨r, held, tracks⟩ := tracks
  obtain ⟨h, b, found, breaker, plays⟩ := tracks.plays _ m machine
  have registered : r.find? (Registry.endpointKey service e.address) = some b := by
    rw [Registry.find?, found]
    exact breaker
  rw [← plays.available_iff]
  simpa [isOpen, held, registered] using passes

theorem breakerFor_ready (fits : Fits scene service addresses c) (fair : s.Fair scene)
    (tracks : s.Tracks service addresses machines) (policy : c.limits.breaker = some p)
    (valid : Config.ofPolicy p = .ok config)
    (lists : ∀ a, a ∈ pool.map Endpoint.address ↔ a ∈ addresses) (picked : e ∈ pool)
    (admits : ∀ m, machines e.address = some m → m.Admits s.clock) :
    Ready scene service addresses machines p e.address ((c.breakerFor e pool).run s).value
      ((c.breakerFor e pool).run s).session := by
  obtain ⟨r, held, tracks⟩ := tracks
  unfold breakerFor
  rw [run_session_bind, held, policy, fits.service_eq]
  dsimp only
  cases machine : machines e.address with
  | some m =>
    obtain ⟨h, b, found, -, -⟩ := tracks.plays _ m machine
    rw [found]
    refine ⟨fair, ?_, r, h, held, rfl, found, ?_⟩
    · rw [machine]
      exact admits m machine
    · rw [machine, Option.getD_some, ← machine, Function.update_eq_self]
      exact tracks
  | none =>
    have listed : e.address ∈ addresses := (lists _).1 (List.mem_map_of_mem picked)
    obtain ⟨h, grown, obtained, found, grew⟩ := tracks.obtain_new machine listed valid
    obtain ⟨value, session⟩ := register_run c pool s obtained
    rw [tracks.absent _ machine]
    dsimp only
    rw [value, session, fits.service_eq]
    refine ⟨⟨fair.inScene, fair.faithful⟩, ?_, _, h, rfl, rfl, ?_, ?_⟩
    · rw [machine]
      exact Machine.new_admits p _
    · rw [Registry.get?_prune, if_pos ((lists _).2 listed), found]
    · rw [machine]
      exact grew.prune (fun a known => (lists a).2 known)

-- Without an endpoint nothing has happened to the breakers; with one, its breaker is ready.
def Elects (scene : Millis → σ → Prop) (service : String) (addresses : List String)
    (machines : String → Option Machine) (p : BreakerPolicy) (s : Session σ)
    (o : Outcome σ (Except GovernanceError Elected)) : Prop :=
  match o.value with
  | .error _ => Undisturbed scene s o.session
  | .ok elected =>
    Ready scene service addresses machines p elected.endpoint.address elected.breaker o.session

theorem elect_elects (fits : Fits scene service addresses c) (fair : s.Fair scene)
    (tracks : s.Tracks service addresses machines) (policy : c.limits.breaker = some p)
    (valid : Config.ofPolicy p = .ok config) (earlier : Nat)
    (tried : List String) :
    Elects scene service addresses machines p s ((c.elect earlier tried).run s) := by
  unfold Elects
  cases elects : ((c.elect earlier tried).run s).value with
  | error e => exact fits.parts.elect_of_error elects fair
  | ok elected =>
    obtain ⟨pool, candidates, chosen⟩ := elect_of_ok elects
    have routed := fits.route_calm s fair
    have picked := fits.pick_calm earlier candidates _ routed.fair
    have tracksRouted := tracks.undisturbed routed
    obtain ⟨inPool, passes⟩ := chosen.passes fits.narrows fits.builtIn routed.fair.faithful
    rw [policy, fits.service_eq] at passes
    dsimp only
    rw [← chosen.left, ← chosen.breaker]
    refine breakerFor_ready fits picked.fair (tracksRouted.undisturbed picked) policy valid
      (fits.lists s fair pool chosen.listed) inPool ?_
    intro m machine
    exact Machine.admits_mono picked.clock_le (admits_of_not_isOpen tracksRouted machine passes)

end Election

section Visit

variable {scene : Millis → σ → Prop} {service : String} {addresses : List String} {c : Call σ α}
  {s : Session σ}

theorem acquire_run {r : Registry} {h : Handle} {b : Breaker} {permit : Permit}
    (held : s.breakers = some r) (breaker : r.breaker? h = some b)
    (given : (r.acquire h s.clock).permit = some permit) :
    ((acquire (some h)).run s).value = .ok (some permit) ∧
      ((acquire (some h)).run s).session =
        { s with breakers := some (r.acquire h s.clock).registry } := by
  unfold acquire
  rw [run_session_bind, held]
  dsimp only
  rw [breaker]
  dsimp only
  rw [given]
  exact ⟨rfl, rfl⟩

theorem settle_run {r : Registry} (held : s.breakers = some r) (permit : Permit)
    (outcome : Breaker.Outcome) :
    ((settle (some permit) outcome).run s).session =
      { s with breakers := some (r.settle permit outcome s.clock).1 } := by
  unfold settle
  rw [run_session_bind, held]
  rfl

theorem settle_fair (fair : s.Fair scene) (permit : Option Permit) (outcome : Breaker.Outcome) :
    ((settle permit outcome).run s).session.Fair scene := by
  unfold settle
  rw [run_session_bind]
  split
  · exact ⟨fair.inScene, fair.faithful⟩
  · exact fair

/-- A breaker that is ready gives a permit. If the breakers are left alone until it is given back,
they then are what the machines are after the visit. -/
theorem Ready.lends {machines : String → Option Machine} {p : BreakerPolicy} {e : Endpoint}
    {breaker : Option Handle}
    (ready : Ready scene service addresses machines p e.address breaker s) :
    ∃ permit, ((acquire breaker).run s).value = .ok (some permit) ∧
      ((acquire breaker).run s).session.Fair scene ∧
      ∀ outcome {later : Session σ}, Undisturbed scene ((acquire breaker).run s).session later →
        ((settle (some permit) outcome).run later).session.Tracks service addresses
          (Function.update machines e.address
            (some (((machines e.address).getD (.new p)).after
              ⟨e, p, s.clock, outcome, later.clock⟩))) := by
  obtain ⟨fair, admits, r, h, held, rfl, found, tracks⟩ := ready
  obtain ⟨-, b, -, registered, -⟩ := tracks.machine_of_get? found
  have visit (outcome : Breaker.Outcome) (told : Millis) :=
    tracks.visited ⟨e, p, s.clock, outcome, told⟩ (Function.update_self ..) found admits
  obtain ⟨permit, given, -⟩ := visit .dropped 0
  obtain ⟨value, session⟩ := acquire_run held registered given
  refine ⟨permit, value, ?_, ?_⟩
  · rw [session]
    exact ⟨fair.inScene, fair.faithful⟩
  · intro outcome later undisturbed
    obtain ⟨same, givenAgain, after⟩ := visit outcome later.clock
    obtain rfl : permit = same := Option.some.inj (given.symm.trans givenAgain)
    have acquired : later.breakers = some (r.acquire h s.clock).registry := by
      rw [undisturbed.breakers_eq, session]
    rw [settle_run acquired]
    refine ⟨_, rfl, ?_⟩
    rw [Visit.address, Function.update_idem] at after
    exact after

theorem invoke_verdict (c : Call σ α) (s : Session σ) (number : UInt32) (e : Endpoint)
    (permit : Option Permit) :
    ((c.invoke number e permit).run s).value.verdict? =
      some (c.told (c.adapter.invoke c.request e s).1) := by
  unfold invoke
  rw [run_bind_after, run_log, run_bind_after, run_note, run_bind_after, run_through]
  obtain ⟨_ | response, s₁⟩ := c.adapter.invoke c.request e s
  · rfl
  · dsimp only [Outcome.after]
    by_cases fine : response.isSuccess
    · rw [if_pos fine, told, if_pos fine]
      rfl
    · rw [if_neg fine, judge_returns, told_of_failed (by simpa using fine)]
      rfl

-- Once a breaker is told, nothing happens to it before the attempt is over.
theorem invoke_settles (fits : Fits scene service addresses c) (fair : s.Fair scene) (number : UInt32)
    (e : Endpoint) (permit : Option Permit) :
    Undisturbed scene
      ((settle permit (c.told (c.adapter.invoke c.request e s).1)).run
        (c.adapter.invoke c.request e s).2).session
      ((c.invoke number e permit).run s).session :=
  fits.parts.invoke number e permit s (settle_fair (fits.invoke e s fair).fair _ _)

end Visit

namespace Round

variable {scene : Millis → σ → Prop} {service : String} {addresses : List String} {c : Call σ α}
  {r : Round σ} {visits : List Visit} {p : BreakerPolicy} {config : Config} {elected : Elected}

theorem undisturbed_of_unelected (fits : Fits scene service addresses c)
    (inStep : r.found.InStep scene service addresses visits) {e : GovernanceError}
    (unelected : (r.election c).value = .error e) :
    Undisturbed scene r.found (r.outcome c).session := by
  obtain ⟨p, config, policy, valid⟩ := fits.breaking
  have elects := elect_elects fits inStep.fair inStep.tracks policy valid r.earlier r.tried
  unfold Elects at elects
  rw [← election, unelected] at elects
  rw [outcome_of_unelected unelected]
  exact elects

theorem ready (fits : Fits scene service addresses c)
    (inStep : r.found.InStep scene service addresses visits) (policy : c.limits.breaker = some p)
    (valid : Config.ofPolicy p = .ok config) (chosen : (r.election c).value = .ok elected) :
    Ready scene service addresses (machine? visits) p elected.endpoint.address elected.breaker
      (r.announcement c elected).session := by
  have elects := elect_elects fits inStep.fair inStep.tracks policy valid r.earlier r.tried
  unfold Elects at elects
  rw [← election, chosen] at elects
  exact elects.undisturbed (fits.emit_calm _ _ elects.fair)

theorem visited (fits : Fits scene service addresses c)
    (inStep : r.found.InStep scene service addresses visits) (policy : c.limits.breaker = some p)
    (valid : Config.ofPolicy p = .ok config) (chosen : (r.election c).value = .ok elected) :
    (∃ permit, (r.admission c elected).value = .ok (some permit)) ∧
      ((machine? visits (r.visit c p elected).address).getD (.new p)).Admits
        (r.visit c p elected).asked ∧
      (r.outcome c).value.verdict? = some (r.visit c p elected).outcome ∧
      (r.outcome c).session.InStep scene service addresses (visits ++ [r.visit c p elected]) := by
  have ready := r.ready fits inStep policy valid chosen
  obtain ⟨permit, value, fair, lent⟩ := ready.lends
  have answered : Undisturbed scene (r.admission c elected).session (r.answer c elected).2 :=
    fits.invoke elected.endpoint _ fair
  have settled := invoke_settles fits fair r.counter elected.endpoint (some permit)
  have told := lent (c.told (r.answer c elected).1) answered
  rw [outcome_of_admitted chosen value]
  refine ⟨⟨permit, value⟩, ready.admits, invoke_verdict _ _ _ _ _, settled.fair, ?_⟩
  rw [machine?_concat]
  exact Session.Tracks.undisturbed told settled

end Round

section Leads

variable {R : Session σ → Session σ → Prop}

theorem Course.leads {c : Call σ α} (whole : Whole R c) {b : Budget} {last : Option (Response α)}
    {r : Round σ} {rounds : List (Round σ)} {o : Outcome σ (Option (Response α))}
    (course : Course c b last r rounds o) :
    (∀ one ∈ rounds, R r.found one.found) ∧ R r.found o.session := by
  induction course with
  | @ends last r stops =>
    refine ⟨?_, whole.trans (whole.attempt r) (whole.close b last r)⟩
    simpa using whole.refl r.found
  | @goesOn last r rounds o more rest ih =>
    have next : R r.found (r.next c b).found :=
      whole.trans (whole.attempt r) (whole.interval b r)
    refine ⟨?_, whole.trans next ih.2⟩
    rw [List.forall_mem_cons]
    exact ⟨whole.refl _, fun one mem => whole.trans next (ih.1 one mem)⟩

end Leads

end Governance.Call
