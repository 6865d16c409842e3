import Governance.Proofs.Call.Uses

set_option autoImplicit false

namespace Governance.Call

variable {σ : Type}

open Governance.Circuit

-- The breaker that was there, or a new one, is told of the attempt. It stands for the endpoint
-- afterwards exactly if it did before or the endpoint is in the pool.
structure Recorded (m : Made σ) (elected : Elected) (u : Use) (h : Handle) : Prop where
  used : m.use? = some u
  key_eq : u.key = Registry.endpointKey m.call.request.service elected.endpoint.address
  handle : elected.breaker = some h
  told : m.left.breaker? h = some ((m.found.taken u).afterUse u)
  kept : m.left.get? u.key = some h ↔ m.found.get? u.key ≠ none ∨
    elected.endpoint.address ∈ (m.round.pool m.call).map Endpoint.address

structure Accumulates (made : List (Made σ)) : Prop where
  recorded : ∀ m ∈ made, ∀ elected p, (m.round.election m.call).value = .ok elected →
    m.call.limits.breaker = some p → ∃ u h, Recorded m elected u h
  opens : ∀ past recent m after, made = past ++ (recent ++ m :: after) → ∀ key, m.isAt key →
    (∀ d ∈ recent ++ [m], ¬ d.Drops key) →
    (∀ d ∈ recent ++ [m], d.isAt key → d.outcome.value.verdict? = some .failure) →
      ∃ b, m.left.find? key = some b ∧
        (b.config.failureThreshold.toNat ≤ (recent ++ [m]).countP (·.isAt key) →
          b.state = .opened)

section Runs

variable {reg : Registry} {m : Made σ} {key : String}

theorem Made.verdict_of_use? {u : Use} (used : m.use? = some u) {outcome : Breaker.Outcome}
    (verdict : m.outcome.value.verdict? = some outcome) : u.outcome = outcome := by
  obtain ⟨elected, config, -, rfl⟩ := Round.of_use? used
  exact congrArg (·.getD .dropped) verdict

theorem Made.UsesOnly.counted (uses : m.UsesOnly reg) (sound : reg.Sound) {n : Nat}
    (counted : reg.Counted key n) (stays : ¬ m.Drops key)
    (fails : m.isAt key → m.outcome.value.verdict? = some .failure) :
    (reg.uses m.use?.toList).Counted key (n + if m.isAt key then 1 else 0) := by
  cases used : m.use? with
  | none =>
    rw [Made.isAt, used]
    exact counted
  | some u =>
    have here : m.isAt key = true ↔ u.key = key := by simp [Made.isAt, used]
    have kept : ¬ reg.Drops u key := fun drops => stays ((uses.drops_iff used).2 drops)
    have next := counted.use sound kept
      (fun own => Made.verdict_of_use? used (fails (here.2 own)))
    simp only [here]
    exact next

theorem InTurn.counted {made : List (Made σ)} (inTurn : InTurn reg made) (sound : reg.Sound)
    {n : Nat} (counted : reg.Counted key n) (stays : ∀ m ∈ made, ¬ m.Drops key)
    (fails : ∀ m ∈ made, m.isAt key → m.outcome.value.verdict? = some .failure) :
    (reg.uses (Made.uses made)).Counted key (n + made.countP (·.isAt key)) := by
  induction made generalizing reg n with
  | nil => exact counted
  | cons m later ih =>
    obtain ⟨own, rest⟩ := inTurn
    obtain ⟨ownStays, laterStay⟩ := List.forall_mem_cons.1 stays
    obtain ⟨ownFails, laterFail⟩ := List.forall_mem_cons.1 fails
    have next := ih rest (sound.uses _) (own.counted sound counted ownStays ownFails) laterStay
      laterFail
    rw [Made.uses_cons, Registry.uses_append, List.countP_cons, Nat.add_comm (List.countP ..),
      ← Nat.add_assoc]
    exact next

theorem Made.UsesOnly.recorded (uses : m.UsesOnly reg) (sound : reg.Sound) {elected : Elected}
    {p : BreakerPolicy} (chosen : (m.round.election m.call).value = .ok elected)
    (policy : m.call.limits.breaker = some p) : ∃ u h, Recorded m elected u h := by
  obtain ⟨config, valid, handle⟩ := uses.takes elected p chosen policy
  have used : m.use? = some (m.round.use m.call config elected) :=
    Round.use?_of_elected chosen policy valid
  have left : m.left = reg.use (m.round.use m.call config elected) := by
    rw [uses.left, used]
    rfl
  refine ⟨_, _, used, rfl, handle, ?_, ?_⟩
  · rw [left, uses.found]
    exact sound.breaker?_use_self _
  · rw [left, uses.found, Registry.get?_use_self_iff, Registry.drops_self_iff, not_and_or,
      not_not]
    rfl

end Runs

/-- Calls that are made one after another, with any pools and any advice, let the failures of an
endpoint add up as long as its breaker is kept, and it is kept unless it is new and the endpoint is
not in the pool. -/
theorem failures_accumulate {s : Session σ} {reg : Registry} {turns : List (Turn σ)}
    (held : s.breakers = some reg) (sound : reg.Sound)
    (within : ∀ t ∈ turns, t.Within SameBreakers) (valid : ∀ t ∈ turns, BreaksValidly t.call) :
    (∃ made later, Served s turns made later) ∧
      ∀ made later, Served s turns made later → Accumulates made := by
  refine ⟨exists_served s turns, ?_⟩
  intro made later served
  have inTurn := served.inTurn within valid sound held
  constructor
  · intro m mem elected p chosen policy
    obtain ⟨found, foundSound, uses⟩ := inTurn.of_mem sound mem
    exact uses.recorded foundSound chosen policy
  · rintro past recent m after rfl key here stays fails
    have start := (inTurn_append_iff.1 inTurn).2
    rw [List.append_cons] at start
    have own := (inTurn_append_iff.1 start).1
    have none : (reg.uses (Made.uses past)).Counted key 0 :=
      fun more => absurd more (Nat.lt_irrefl 0)
    have counted := own.counted (sound.uses _) none stays fails
    have positive : 0 < (recent ++ [m]).countP (·.isAt key) :=
      List.countP_pos_iff.2 ⟨m, by simp, here⟩
    rw [Nat.zero_add] at counted
    rw [own.left_of_concat]
    exact counted.opened ((sound.uses _).uses _) positive

section Outsider

def outsider : Endpoint := ⟨"x", 9, .healthy, .empty⟩

def advised (advice : Option Advice) (pause : Millis) : Turn (List (Response String)) where
  gap s := { s with clock := s.clock.plus pause }
  call := { guardedCall with advice := advice }

theorem advised_within (advice : Option Advice) (pause : Millis) :
    (advised advice pause).Within SameBreakers where
  gap _ := rfl
  route _ := rfl
  invoke _ _ := rfl
  onSuccess _ _ := rfl
  onFailure _ _ _ := rfl
  sleep _ _ := rfl
  deliver _ _ := rfl

theorem advised_breaksValidly (advice : Option Advice) (pause : Millis) :
    BreaksValidly (advised advice pause).call := by
  rintro p ⟨⟩
  exact ⟨_, Config.make_eq_ok ⟨1, .ofMillis 10, 1, by decide, by decide, by decide⟩⟩

-- In the second call the caller names an endpoint that the adapter does not list.
def outsiderTurns : List (Turn (List (Response String))) :=
  [advised none 0, advised (some (.always outsider)) 0, advised none 5]

theorem outsider_accumulates :
    beforeOutage.breakers = some .empty ∧ Registry.empty.Sound ∧
      (∀ t ∈ outsiderTurns, t.Within SameBreakers) ∧
      (∀ t ∈ outsiderTurns, BreaksValidly t.call) ∧
      (∃ made later, Served beforeOutage outsiderTurns made later) ∧
      ∀ made later, Served beforeOutage outsiderTurns made later → Accumulates made := by
  have within : ∀ t ∈ outsiderTurns, t.Within SameBreakers := by
    simp [outsiderTurns, advised_within]
  have valid : ∀ t ∈ outsiderTurns, BreaksValidly t.call := by
    simp [outsiderTurns, advised_breaksValidly]
  exact ⟨rfl, Registry.empty_sound, within, valid,
    failures_accumulate rfl Registry.empty_sound within valid⟩

def outsiderCall : Call (List (Response String)) String :=
  { guardedCall with advice := some (.always outsider) }

theorem outsider_forgotten :
    brokenByOne.failureThreshold = some 1 ∧
      ((Round.first beforeOutage).use? outsiderCall).map Use.key = some "svc@x:9" ∧
      ((Round.first beforeOutage).outcome outsiderCall).value.verdict? = some .failure ∧
      ((Round.first beforeOutage).outcome outsiderCall).session.breakers.map (·.keys.names) =
        some [] := by
  decide +kernel

end Outsider

end Governance.Call
