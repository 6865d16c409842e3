import Governance.Proofs.Call.Visits

set_option autoImplicit false

namespace Governance.Call

open Governance.Circuit

variable {σ α : Type}

structure Turn (σ : Type) where
  {α : Type}
  gap : Session σ → Session σ
  call : Call σ α

structure Turn.Fits (scene : Millis → σ → Prop) (service : String) (addresses : List String)
    (t : Turn σ) : Prop where
  gap : Keeps scene t.gap
  call : Call.Fits scene service addresses t.call

structure Made (σ : Type) where
  {α : Type}
  call : Call σ α
  round : Round σ

namespace Made

def outcome (m : Made σ) : Outcome σ (Attempt m.α) := m.round.outcome m.call

def visit? (m : Made σ) : Option Visit := m.round.visit? m.call

def visits (made : List (Made σ)) : List Visit := made.flatMap (·.visit?.toList)

@[simp]
theorem visits_nil : visits ([] : List (Made σ)) = [] := rfl

@[simp]
theorem visits_cons (m : Made σ) (later : List (Made σ)) :
    visits (m :: later) = m.visit?.toList ++ visits later := List.flatMap_cons

end Made

-- The turns are taken one after another, from one session to another, and these attempts are made
-- in the course of their calls.
inductive Served : Session σ → List (Turn σ) → List (Made σ) → Session σ → Prop
  | nothing (s : Session σ) : Served s [] [] s
  | turn {s later : Session σ} {t : Turn σ} {turns : List (Turn σ)} {rounds : List (Round σ)}
      {made : List (Made σ)}
      (course : Course t.call (.ofLimits t.call.limits (t.gap s).clock) none (.first (t.gap s))
        rounds (t.call.run.run (t.gap s)))
      (rest : Served (t.call.run.run (t.gap s)).session turns made later) :
      Served s (t :: turns) (rounds.map (fun r => ⟨t.call, r⟩) ++ made) later

theorem exists_served (s : Session σ) (turns : List (Turn σ)) :
    ∃ made later, Served s turns made later := by
  induction turns generalizing s with
  | nil => exact ⟨[], s, .nothing s⟩
  | cons t turns ih =>
    obtain ⟨rounds, course⟩ := run_course t.call (t.gap s)
    obtain ⟨made, later, rest⟩ := ih (t.call.run.run (t.gap s)).session
    exact ⟨_, later, .turn course rest⟩

structure LeftAlone (service : String) (visits : List Visit) (m : Made σ) : Prop where
  admitted : ∀ elected, (m.round.election m.call).value = .ok elected →
    ∃ permit, (m.round.admission m.call elected).value = .ok (some permit)
  told : m.visit?.map (·.outcome) = m.outcome.value.verdict?
  invoked : m.outcome.trace.filter Happening.isInvocation =
    m.visit?.toList.map (fun v => .invoked v.endpoint)
  -- The machine is not open, or its recovery is over.
  passes : ∀ v, m.visit? = some v →
    ∀ machine, machine? visits v.address = some machine → machine.Admits v.asked
  followed : ∀ address machine, machine? (visits ++ m.visit?.toList) address = some machine →
    ∃ r b, m.outcome.session.breakers = some r ∧
      r.find? (Registry.endpointKey service address) = some b ∧
      Config.ofPolicy machine.policy = .ok b.config ∧ b.view = machine.state

section Steps

variable {scene : Millis → σ → Prop} {service : String} {addresses : List String} {c : Call σ α}
  {visits : List Visit} {s later : Session σ} {r : Round σ}

theorem Session.Tracks.followed (tracks : s.Tracks service addresses (machine? visits))
    (address : String) (machine : Machine) (found : machine? visits address = some machine) :
    ∃ r b, s.breakers = some r ∧ r.find? (Registry.endpointKey service address) = some b ∧
      Config.ofPolicy machine.policy = .ok b.config ∧ b.view = machine.state := by
  obtain ⟨r, held, tracks⟩ := tracks
  obtain ⟨h, b, registered, breaker, plays⟩ := tracks.plays address machine found
  refine ⟨r, b, held, ?_, plays.valid, plays.view_eq⟩
  rw [Registry.find?, registered]
  exact breaker

theorem Round.step (fits : Fits scene service addresses c)
    (inStep : r.found.InStep scene service addresses visits) :
    LeftAlone service visits ⟨c, r⟩ ∧
      (r.outcome c).session.InStep scene service addresses (visits ++ (r.visit? c).toList) := by
  cases chosen : (r.election c).value with
  | error e =>
    have none := visit?_of_unelected chosen
    have after := inStep.undisturbed (undisturbed_of_unelected fits inStep chosen)
    rw [none, Option.toList_none, List.append_nil]
    refine ⟨⟨?_, ?_, ?_, ?_, ?_⟩, after⟩
    · intro elected same
      cases chosen.symm.trans same
    · rw [Made.visit?, none, Made.outcome, outcome_of_unelected chosen]
      rfl
    · rw [Made.visit?, none]
      exact invocations_of_unelected chosen
    · intro v same
      cases none.symm.trans same
    · rw [Made.visit?, none, Option.toList_none, List.append_nil]
      exact after.tracks.followed
  | ok elected =>
    obtain ⟨p, config, policy, valid⟩ := fits.breaking
    obtain ⟨⟨permit, admitted⟩, admits, verdict, after⟩ := visited fits inStep policy valid chosen
    have visit := visit?_of_admitted chosen policy admitted
    rw [visit, Option.toList_some]
    refine ⟨⟨?_, ?_, ?_, ?_, ?_⟩, after⟩
    · intro other same
      cases chosen.symm.trans same
      exact ⟨permit, admitted⟩
    · rw [Made.visit?, visit]
      exact verdict.symm
    · rw [Made.visit?, visit]
      exact invocations_of_admitted chosen admitted
    · intro v same machine found
      cases visit.symm.trans same
      rw [found] at admits
      exact admits
    · rw [Made.visit?, visit, Option.toList_some]
      exact after.tracks.followed

end Steps

def AllLeftAlone (service : String) (visits : List Visit) : List (Made σ) → Prop
  | [] => True
  | m :: later =>
    LeftAlone service visits m ∧ AllLeftAlone service (visits ++ m.visit?.toList) later

section Runs

variable {scene : Millis → σ → Prop} {service : String} {addresses : List String} {c : Call σ α}
  {visits : List Visit} {s later : Session σ}

theorem allLeftAlone_append {first second : List (Made σ)}
    (left : AllLeftAlone service visits first)
    (right : AllLeftAlone service (visits ++ Made.visits first) second) :
    AllLeftAlone service visits (first ++ second) := by
  induction first generalizing visits with
  | nil => simpa using right
  | cons m rest ih =>
    refine ⟨left.1, ih left.2 ?_⟩
    simpa using right

theorem AllLeftAlone.of_split {before after : List (Made σ)} {m : Made σ}
    (all : AllLeftAlone service visits (before ++ m :: after)) :
    LeftAlone service (visits ++ Made.visits before) m := by
  induction before generalizing visits with
  | nil => simpa using all.1
  | cons first rest ih => simpa using ih all.2

theorem Course.leavesAlone (fits : Fits scene service addresses c) {b : Budget}
    {last : Option (Response α)} {r : Round σ} {rounds : List (Round σ)}
    {o : Outcome σ (Option (Response α))} (course : Course c b last r rounds o)
    (inStep : r.found.InStep scene service addresses visits) :
    AllLeftAlone service visits (rounds.map (fun r => ⟨c, r⟩)) ∧
      o.session.InStep scene service addresses
        (visits ++ Made.visits (rounds.map (fun r => ⟨c, r⟩))) := by
  induction course generalizing visits with
  | @ends last r stops =>
    obtain ⟨alone, after⟩ := Round.step fits inStep
    have concluded := fits.parts.close b last r after.fair
    refine ⟨⟨alone, trivial⟩, ?_⟩
    rw [List.map_singleton, Made.visits_cons, Made.visits_nil, List.append_nil]
    exact after.undisturbed concluded
  | @goesOn last r rounds o more rest ih =>
    obtain ⟨alone, after⟩ := Round.step fits inStep
    have paused := fits.parts.interval b r after.fair
    obtain ⟨restAlone, restInStep⟩ := ih (after.undisturbed paused)
    refine ⟨⟨alone, restAlone⟩, ?_⟩
    rw [List.map_cons, Made.visits_cons, ← List.append_assoc]
    exact restInStep

theorem Served.leavesAlone {turns : List (Turn σ)} {made : List (Made σ)}
    (served : Served s turns made later) (fits : ∀ t ∈ turns, t.Fits scene service addresses)
    (inStep : s.InStep scene service addresses visits) : AllLeftAlone service visits made := by
  induction served generalizing visits with
  | nothing s => trivial
  | @turn s later t turns rounds made course rest ih =>
    obtain ⟨own, others⟩ := List.forall_mem_cons.1 fits
    have found := inStep.undisturbed (own.gap s inStep.fair)
    obtain ⟨alone, after⟩ := course.leavesAlone own.call found
    exact allLeftAlone_append alone (ih others after)

end Runs

/-- Calls that are made one after another leave tripped endpoints alone: after the visits of the
attempts before it, each attempt is to the breakers what the textbook machines say. -/
theorem tripped_left_alone {scene : Millis → σ → Prop} {service : String} {addresses : List String}
    {s : Session σ} {turns : List (Turn σ)} (untouched : s.breakers = some .empty)
    (fair : s.Fair scene) (fits : ∀ t ∈ turns, t.Fits scene service addresses) :
    (∃ made later, Served s turns made later) ∧
      ∀ made later, Served s turns made later → ∀ before m after, made = before ++ m :: after →
        LeftAlone service (Made.visits before) m := by
  refine ⟨exists_served s turns, ?_⟩
  rintro _ later served before m after rfl
  have start : s.InStep scene service addresses [] :=
    ⟨fair, .empty, untouched, Registry.empty_tracks service addresses⟩
  exact (served.leavesAlone fits start).of_split

section Outage

def onlyEndpoint : Endpoint := ⟨"h", 1, .healthy, .empty⟩

def oneEndpointService : Adapter (List (Response String)) String where
  route _ s := (.ok [onlyEndpoint], s)
  invoke _ _ s := (some (s.world.headD (.success "up")), { s with world := s.world.tail })
  isRetryable _ _ := true

def brokenByOne : BreakerPolicy := ⟨none, some 1, some 10, none⟩

def guardedCall : Call (List (Response String)) String where
  invoker := ⟨.nowhere, .standard, .degrade, fun _ s => s, fun _ s => (s, [])⟩
  adapter := oneEndpointService
  request := .plain "svc" none
  limits := ⟨none, none, some brokenByOne⟩
  advice := none

def guardedAfter (pause : Millis) : Turn (List (Response String)) :=
  ⟨fun s => { s with clock := s.clock.plus pause }, guardedCall⟩

def beforeOutage : Session (List (Response String)) :=
  ⟨0, .standard, some .empty, [.failure (.new "down")]⟩

theorem le_plus (now pause : Millis) : now ≤ now.plus pause := by
  have bound := now.toNat_lt
  rw [UInt64.le_iff_toNat_le, Millis.toNat_plus]
  simp only [UInt64.size]
  omega

theorem guardedAfter_fits (pause : Millis) :
    (guardedAfter pause).Fits (fun _ _ => True) "svc" ["h:1"] where
  gap s fair := ⟨rfl, le_plus s.clock pause, trivial, fair.faithful⟩
  call :=
    { service_eq := rfl
      breaking := ⟨brokenByOne, ⟨1, .ofMillis 10, 1, by decide, by decide, by decide⟩, rfl,
        Config.make_eq_ok ⟨1, .ofMillis 10, 1, by decide, by decide, by decide⟩⟩
      builtIn := .inl rfl
      narrows := by simp [guardedAfter, guardedCall, Routing.Chain.standard, Routing.Filter.Narrows]
      lists := by
        intro s fair pool given a
        cases given
        rfl
      route := fun _ fair => .refl fair
      invoke := fun _ _ fair => ⟨rfl, UInt64.le_refl _, trivial, fair.faithful⟩
      onSuccess := fun _ _ fair => .refl fair
      onFailure := fun _ _ _ fair => .refl fair
      sleep := fun _ _ fair => .refl fair
      deliver := fun _ _ fair => .refl fair }

-- The second call comes while the breaker is open, the third when its recovery is over.
def outageTurns : List (Turn (List (Response String))) :=
  [guardedAfter 0, guardedAfter 5, guardedAfter 5]

theorem outage_left_alone :
    beforeOutage.breakers = some .empty ∧ beforeOutage.Fair (fun _ _ => True) ∧
      (∀ t ∈ outageTurns, t.Fits (fun _ _ => True) "svc" ["h:1"]) ∧
      (∃ made later, Served beforeOutage outageTurns made later) ∧
      ∀ made later, Served beforeOutage outageTurns made later →
        ∀ before m after, made = before ++ m :: after →
          LeftAlone "svc" (Made.visits before) m := by
  have fair : beforeOutage.Fair (fun _ _ => True) := ⟨trivial, trivial⟩
  have fits : ∀ t ∈ outageTurns, t.Fits (fun _ _ => True) "svc" ["h:1"] := by
    simp [outageTurns, guardedAfter_fits]
  exact ⟨rfl, fair, fits, tripped_left_alone rfl fair fits⟩

end Outage

end Governance.Call
