import Governance.Proofs.Circuit.InUse
import Governance.Proofs.Circuit.Textbook

set_option autoImplicit false

namespace Governance.Circuit

structure Reference where
  machine : Textbook
  calling : Bool
  streak : Nat
  clock : Millis
  deriving DecidableEq, Repr

namespace Reference

def start : Reference := ⟨.closed 0, false, 0, 0⟩

def streakAfter (streak : Nat) : Breaker.Outcome → Nat
  | .success => 0
  | .failure => streak + 1
  | .dropped => streak

def step (t : Terms) (r : Reference) : Move → Reference
  | .acquire =>
    if r.machine.answer t r.clock.toNat = .refused then r
    else { r with machine := r.machine.ask t r.clock.toNat, calling := true }
  | .giveBack index outcome =>
    if r.calling ∧ index = 0 then
      { r with
        machine := r.machine.tell t outcome r.clock.toNat
        calling := false
        streak := streakAfter r.streak outcome }
    else r
  | .reset => { r with machine := .closed 0, streak := 0 }
  | .setClock reading => { r with clock := reading }

def run (t : Terms) (r : Reference) (moves : List Move) : Reference := moves.foldl (step t) r

end Reference

namespace InUse

def Settled (u : InUse) (move : Move) : Prop := move = .acquire ∨ move = .reset → u.out = []

def OneByOne (u : InUse) : List Move → Prop
  | [] => True
  | move :: rest => u.Settled move ∧ (u.step move).OneByOne rest

instance (u : InUse) (move : Move) : Decidable (u.Settled move) :=
  inferInstanceAs (Decidable (_ → _))

instance decidableOneByOne (u : InUse) : (moves : List Move) → Decidable (u.OneByOne moves)
  | [] => isTrue trivial
  | move :: rest =>
    haveI := decidableOneByOne (u.step move) rest
    inferInstanceAs (Decidable (_ ∧ _))

structure Matches (t : Terms) (r : Reference) (u : InUse) : Prop where
  goesBy : u.breaker.GoesBy t
  view_eq : u.breaker.view = r.machine
  failures_eq : u.breaker.failures = UInt64.ofNat r.streak
  clock_eq : u.clock = r.clock
  slots : if r.calling then ∃ p, u.out = [p] ∧ u.breaker.Lent p.probe
    else u.out = [] ∧ u.breaker.Idle

theorem start_matches {key : String} {config : Config} {p : BreakerPolicy}
    (valid : Config.ofPolicy p = .ok config) : Matches (.ofPolicy p) .start (start key config) where
  goesBy := Breaker.goesBy_of_ofPolicy valid
  view_eq := rfl
  failures_eq := rfl
  clock_eq := rfl
  slots := ⟨rfl, Breaker.new_idle key config⟩

section Step

variable {t : Terms} {r : Reference} {u : InUse}

theorem idle_of_none_out (same : Matches t r u) (none_out : u.out = []) :
    r.calling = false ∧ u.breaker.Idle := by
  have slots := same.slots
  cases calling : r.calling with
  | true =>
    rw [if_pos calling] at slots
    obtain ⟨p, one, -⟩ := slots
    rw [none_out] at one
    cases one
  | false =>
    rw [calling] at slots
    exact ⟨rfl, slots.2⟩

theorem answer_refused (u : InUse) : u.answer .refused u.breaker = u := by
  have same : ¬ (u.breaker.state = .opened ∧ u.breaker.state = .halfOpen) := by
    rintro ⟨opened, half⟩
    rw [opened] at half
    cases half
  simp [InUse.answer, same, Admission.pass?]

theorem answer_out {admission : Admission} (passes : admission ≠ .refused) (none_out : u.out = [])
    (after : Breaker) :
    ∃ p, (u.answer admission after).out = [p] ∧ p.probe = (admission == .probe) := by
  cases admission with
  | refused => exact absurd rfl passes
  | call | probe => exact ⟨_, by rw [InUse.answer, none_out]; rfl, rfl⟩

theorem acquire_matches (same : Matches t r u) (none_out : u.out = []) :
    Matches t (r.step t .acquire) u.acquire := by
  obtain ⟨notCalling, idle⟩ := idle_of_none_out same none_out
  obtain ⟨admission, after, admits, acquired⟩ := u.acquire_answers
  have answer := admits.answer_eq idle same.goesBy
  have view := admits.view_eq same.goesBy
  rw [same.view_eq, same.clock_eq] at answer view
  rw [acquired, Reference.step, ← answer, ← view]
  by_cases refused : admission = .refused
  · subst refused
    have unchanged := admits.eq_of_refused idle
    subst unchanged
    rw [if_pos rfl, answer_refused]
    exact same
  · rw [if_neg refused]
    refine ⟨same.goesBy.of_config_eq admits.config_eq, rfl,
      admits.failures_eq.trans same.failures_eq, same.clock_eq, ?_⟩
    obtain ⟨p, one, probe⟩ := answer_out refused none_out after
    exact ⟨p, one, probe ▸ admits.lent idle refused⟩

theorem giveBack_matches (same : Matches t r u) (index : Nat) (outcome : Breaker.Outcome) :
    Matches t (r.step t (.giveBack index outcome)) (u.giveBack index outcome) := by
  have slots := same.slots
  cases calling : r.calling with
  | false =>
    rw [calling] at slots
    have none_out : u.out = [] := slots.1
    simpa [Reference.step, calling, giveBack, none_out] using same
  | true =>
    rw [if_pos calling] at slots
    obtain ⟨p, one, lent⟩ := slots
    cases index with
    | succ index => simpa [Reference.step, calling, giveBack, one] using same
    | zero =>
      have told : u.giveBack 0 outcome =
          { u with
            breaker := u.breaker.settle p.probe outcome u.clock
            out := []
            late := u.lateAfter p (u.breaker.settle p.probe outcome u.clock) } := by
        simp [giveBack, one]
      rw [told, Reference.step, if_pos ⟨calling, rfl⟩, ← same.view_eq, ← same.clock_eq,
        ← lent.settle_view same.goesBy]
      refine ⟨same.goesBy.of_config_eq (by simp), rfl, ?_, rfl, rfl, ?_⟩
      · rw [lent.settle_failures, same.failures_eq]
        cases outcome with
        | success | dropped => rfl
        | failure => exact (UInt64.ofNat_add _ _).symm
      · exact lent.settle_idle outcome u.clock

theorem step_matches (same : Matches t r u) {move : Move} (settled : u.Settled move) :
    Matches t (r.step t move) (u.step move) := by
  cases move with
  | acquire => exact acquire_matches same (settled (.inl rfl))
  | giveBack index outcome => exact giveBack_matches same index outcome
  | reset =>
    have none_out := settled (.inr rfl)
    have notCalling := (idle_of_none_out same none_out).1
    refine ⟨same.goesBy.of_config_eq rfl, rfl, rfl, same.clock_eq, ?_⟩
    simpa [Reference.step, notCalling, step] using ⟨none_out, u.breaker.reset_idle⟩
  | setClock reading => exact ⟨same.goesBy, same.view_eq, same.failures_eq, rfl, same.slots⟩

end Step

theorem run_matches {t : Terms} {r : Reference} {u : InUse} (same : Matches t r u)
    {moves : List Move} (oneByOne : u.OneByOne moves) :
    Matches t (r.run t moves) (u.run moves) := by
  induction moves generalizing r u with
  | nil => exact same
  | cons move rest ih => exact ih (step_matches same oneByOne.1) oneByOne.2

theorem OneByOne.of_isPrefix {u : InUse} {part moves : List Move} (oneByOne : u.OneByOne moves)
    (isPart : part <+: moves) : u.OneByOne part := by
  induction part generalizing u moves with
  | nil => trivial
  | cons move part ih =>
    obtain ⟨later, rfl⟩ := isPart
    exact ⟨oneByOne.1, ih oneByOne.2 (List.prefix_append part later)⟩

structure Follows (t : Terms) (r : Reference) (u : InUse) : Prop where
  view_eq : u.breaker.view = r.machine
  failures_eq : u.breaker.failures = UInt64.ofNat r.streak
  out_eq : u.out.length = r.calling.toNat
  answers : u.out = [] → ∀ now, (u.breaker.tryAcquire now).1 = r.machine.answer t now.toNat
  unchanged : u.out = [] → ∀ now, (u.breaker.tryAcquire now).1 = .refused →
    (u.breaker.tryAcquire now).2 = u.breaker
  available : ∀ now,
    u.breaker.isAvailable now = true ↔ (u.breaker.tryAcquire now).1 ≠ .refused

theorem slot_of_matches {t : Terms} {r : Reference} {u : InUse} (same : Matches t r u)
    (opened : u.breaker.state = .opened) : u.breaker.hasSlot := by
  have slots := same.slots
  split at slots
  · obtain ⟨p, -, lent⟩ := slots
    exact absurd opened lent.opened_ne
  · exact slots.2.hasSlot

theorem follows_of_matches {t : Terms} {r : Reference} {u : InUse} (same : Matches t r u) :
    Follows t r u where
  view_eq := same.view_eq
  failures_eq := same.failures_eq
  out_eq := by
    have slots := same.slots
    cases calling : r.calling with
    | true =>
      rw [if_pos calling] at slots
      obtain ⟨p, one, -⟩ := slots
      rw [one]
      rfl
    | false =>
      rw [calling] at slots
      rw [slots.1]
      rfl
  answers none_out now := by
    have idle := (idle_of_none_out same none_out).2
    rw [← same.view_eq]
    exact (u.breaker.tryAcquire_admits now).answer_eq idle same.goesBy
  unchanged none_out now refused := by
    have idle := (idle_of_none_out same none_out).2
    have admits := u.breaker.tryAcquire_admits now
    rw [refused] at admits
    exact admits.eq_of_refused idle
  available _ := Breaker.isAvailable_iff (fun opened _ => slot_of_matches same opened)

/-- A breaker that is set as a policy says, and whose calls come one by one, is after each move what
the textbook machine is. -/
theorem one_by_one_follows (key : String) {p : BreakerPolicy} {config : Config}
    (valid : Config.ofPolicy p = .ok config) {moves : List Move}
    (oneByOne : (start key config).OneByOne moves) :
    ∀ part, part <+: moves →
      Follows (.ofPolicy p) (Reference.start.run (.ofPolicy p) part) (reached key config part) :=
  fun _ isPart =>
    follows_of_matches (run_matches (start_matches valid) (oneByOne.of_isPrefix isPart))

def threeInARow : BreakerPolicy := ⟨none, some 3, some 20, some 4⟩

def threeInARowConfig : Config := ⟨3, .ofMillis 20, 4, by decide, by decide, by decide⟩

-- Three failures open the breaker, a call is refused, and of three probes one is dropped, one fails
-- and one succeeds.
def recoveringCalls : List Move :=
  [.acquire, .giveBack 0 .failure, .acquire, .giveBack 0 .failure, .acquire, .giveBack 0 .failure,
    .acquire, .setClock 20, .acquire, .giveBack 0 .dropped, .acquire, .giveBack 0 .failure,
    .setClock 40, .acquire, .giveBack 0 .success]

theorem recoveringCalls_follow :
    Config.ofPolicy threeInARow = .ok threeInARowConfig ∧
      (start "svc@h:1" threeInARowConfig).OneByOne recoveringCalls ∧
      ∀ part, part <+: recoveringCalls →
        Follows (.ofPolicy threeInARow) (Reference.start.run (.ofPolicy threeInARow) part)
          (reached "svc@h:1" threeInARowConfig part) :=
  have valid : Config.ofPolicy threeInARow = .ok threeInARowConfig :=
    Config.make_eq_ok threeInARowConfig
  ⟨valid, by decide, one_by_one_follows "svc@h:1" valid (by decide)⟩

end InUse

end Governance.Circuit
