import Governance.Proofs.Circuit.Transitions
import Mathlib.Data.List.Perm.Basic

/-!
A breaker in use: calls acquire it, hold their permits for any time and give them back in any
order, while the clock is set and the breaker may be reset. Beside the breaker stand the permits
that are out, the number of half-open periods so far, and the number of probes that came back late:
since the slots were last cleared, those that had been admitted before.

The breaker itself counts slots in 64 bits. The count is that of the period's probes that are out,
less the late ones (`Accounted.slots`), so every late probe lets one more pass, or wraps the count.
-/

set_option autoImplicit false

namespace Governance.Circuit

structure Pass where
  probe : Bool
  period : Nat
  deriving DecidableEq, Repr

def Pass.isCurrent (state : State) (period : Nat) (p : Pass) : Bool :=
  state == .halfOpen && p.probe && p.period == period

def Admission.pass? (period : Nat) : Admission → Option Pass
  | .refused => none
  | .call => some ⟨false, period⟩
  | .probe => some ⟨true, period⟩

structure InUse where
  breaker : Breaker
  out : List Pass
  clock : Millis
  period : Nat
  late : Nat

inductive Move where
  | acquire
  | giveBack (index : Nat) (outcome : Breaker.Outcome)
  | reset
  | setClock (reading : Millis)
  deriving DecidableEq, Repr

namespace InUse

def start (key : String) (config : Config) : InUse := ⟨.new key config, [], 0, 0, 0⟩

def isCurrent (u : InUse) (p : Pass) : Bool := p.isCurrent u.breaker.state u.period

def probesOut (u : InUse) : Nat := u.out.countP (Pass.isCurrent u.breaker.state u.period)

def answer (u : InUse) (admission : Admission) (after : Breaker) : InUse :=
  let period :=
    if u.breaker.state = .opened ∧ after.state = .halfOpen then u.period + 1 else u.period
  { u with
    breaker := after
    out := u.out ++ (admission.pass? period).toList
    period := period }

def acquire (u : InUse) : InUse :=
  u.answer (u.breaker.tryAcquire u.clock).1 (u.breaker.tryAcquire u.clock).2

-- A change of state clears the slots, and with them what came back late.
def lateAfter (u : InUse) (p : Pass) (after : Breaker) : Nat :=
  if after.state = u.breaker.state then u.late + (p.probe && !u.isCurrent p).toNat else 0

def giveBack (u : InUse) (index : Nat) (outcome : Breaker.Outcome) : InUse :=
  match u.out[index]? with
  | none => u
  | some p =>
    let after := u.breaker.settle p.probe outcome u.clock
    { u with
      breaker := after
      out := u.out.eraseIdx index
      late := u.lateAfter p after }

def step (u : InUse) : Move → InUse
  | .acquire => u.acquire
  | .giveBack index outcome => u.giveBack index outcome
  | .reset => { u with breaker := u.breaker.reset, late := 0 }
  | .setClock reading => { u with clock := reading }

def run (u : InUse) (moves : List Move) : InUse := moves.foldl step u

def reached (key : String) (config : Config) (moves : List Move) : InUse :=
  (start key config).run moves

theorem countP_isCurrent_of_ne {state : State} (other : state ≠ .halfOpen) (period : Nat)
    (out : List Pass) : out.countP (Pass.isCurrent state period) = 0 := by
  rw [List.countP_eq_zero]
  intro p _
  simp [Pass.isCurrent, other]

theorem probesOut_eq_zero (u : InUse) (other : u.breaker.state ≠ .halfOpen) : u.probesOut = 0 :=
  countP_isCurrent_of_ne other u.period u.out

structure Accounted (u : InUse) : Prop where
  slots : u.breaker.probes + UInt64.ofNat u.late = UInt64.ofNat u.probesOut
  bounded : u.probesOut ≤ u.breaker.config.halfOpenMaxCalls.toNat + u.late
  begun : ∀ p ∈ u.out, p.period ≤ u.period

theorem start_accounted (key : String) (config : Config) : Accounted (start key config) where
  slots := rfl
  bounded := Nat.zero_le _
  begun := by simp [start]

theorem probesOut_lt_of_hasSlot {u : InUse} (sound : Accounted u) (slot : u.breaker.hasSlot) :
    u.probesOut < u.breaker.config.halfOpenMaxCalls.toNat + u.late := by
  refine Nat.lt_of_le_of_ne sound.bounded ?_
  intro full
  have slots := sound.slots
  rw [full, UInt64.ofNat_add, UInt64.ofNat_toNat] at slots
  have atLimit : u.breaker.probes = u.breaker.config.halfOpenMaxCalls := by grind
  simp [Breaker.hasSlot, atLimit] at slot

-- Permits that were out before a half-open period began are none of its probes.
theorem countP_isCurrent_succ {u : InUse} (sound : Accounted u) (state : State) :
    u.out.countP (Pass.isCurrent state (u.period + 1)) = 0 := by
  rw [List.countP_eq_zero]
  intro p mem
  have earlier := sound.begun p mem
  have other : p.period ≠ u.period + 1 := by omega
  simp [Pass.isCurrent, other]

theorem period_le_of_mem_answer {u : InUse} (sound : Accounted u) (admission : Admission)
    (after : Breaker) {p : Pass} (mem : p ∈ (u.answer admission after).out) :
    p.period ≤ (u.answer admission after).period := by
  have grows : u.period ≤ (u.answer admission after).period := by
    simp only [answer]
    split <;> omega
  rcases List.mem_append.1 mem with old | new
  · exact Nat.le_trans (sound.begun p old) grows
  · cases admission <;> simp_all [Admission.pass?, answer]

theorem probesOut_answer {u : InUse} (sound : Accounted u) {admission : Admission}
    {after : Breaker} (admits : u.breaker.Admits u.clock admission after) :
    (u.answer admission after).probesOut = u.probesOut + if admission = .probe then 1 else 0 := by
  cases admits with
  | call closed => simp [answer, probesOut, closed, Admission.pass?, Pass.isCurrent]
  | recovering opened recovering => simp [answer, probesOut, opened, Admission.pass?]
  | probe offers slot =>
    rcases offers with half | ⟨opened, -⟩
    · simp [answer, probesOut, half, Admission.pass?, Pass.isCurrent]
    · have noneNew := countP_isCurrent_succ sound .halfOpen
      have noneOld := probesOut_eq_zero u (by simp [opened])
      rw [noneOld]
      simp [answer, probesOut, opened, Admission.pass?, noneNew, Pass.isCurrent]
  | full offers full =>
    rcases offers with half | ⟨opened, -⟩
    · simp [answer, probesOut, half, Admission.pass?]
    · have noneNew := countP_isCurrent_succ sound .halfOpen
      have noneOld := probesOut_eq_zero u (by simp [opened])
      rw [noneOld]
      simp [answer, probesOut, opened, Admission.pass?, noneNew]

theorem answer_accounted {u : InUse} (sound : Accounted u) {admission : Admission} {after : Breaker}
    (admits : u.breaker.Admits u.clock admission after) : Accounted (u.answer admission after) where
  slots := by
    rw [probesOut_answer sound admits, UInt64.ofNat_add, ← sound.slots]
    simp only [answer, admits.probes_eq]
    split <;> grind
  bounded := by
    rw [probesOut_answer sound admits]
    simp only [answer, admits.config_eq]
    split
    · rename_i probe
      subst probe
      exact probesOut_lt_of_hasSlot sound admits.hasSlot
    · exact sound.bounded
  begun _ mem := period_le_of_mem_answer sound admission after mem

theorem countP_eraseIdx {out : List Pass} {index : Nat} {p : Pass} (held : out[index]? = some p)
    (test : Pass → Bool) : out.countP test = (out.eraseIdx index).countP test + (test p).toNat := by
  obtain ⟨inside, rfl⟩ := List.getElem?_eq_some_iff.1 held
  rw [← (List.getElem_cons_eraseIdx_perm inside).countP_eq test, List.countP_cons]
  cases test out[index] <;> rfl

theorem release_slots {u : InUse} (sound : Accounted u) {index : Nat} {p : Pass}
    (held : u.out[index]? = some p) :
    (u.breaker.release p.probe).probes
        + UInt64.ofNat (u.late + (p.probe && !u.isCurrent p).toNat) =
      UInt64.ofNat ((u.out.eraseIdx index).countP (Pass.isCurrent u.breaker.state u.period)) := by
  have slots := sound.slots
  rw [probesOut, countP_eraseIdx held, UInt64.ofNat_add] at slots
  rw [UInt64.ofNat_add]
  cases probe : p.probe with
  | false =>
    have other : p.isCurrent u.breaker.state u.period = false := by simp [Pass.isCurrent, probe]
    simpa [Breaker.release, other] using slots
  | true =>
    cases current : p.isCurrent u.breaker.state u.period <;>
      simp only [isCurrent, current, Breaker.release, Bool.toNat_true, Bool.toNat_false, Bool.and_true,
        Bool.and_false, Bool.not_true, Bool.not_false, if_true] at slots ⊢ <;>
      grind

theorem giveBack_accounted {u : InUse} (sound : Accounted u) (index : Nat)
    (outcome : Breaker.Outcome) : Accounted (u.giveBack index outcome) := by
  unfold giveBack
  cases held : u.out[index]? with
  | none => exact sound
  | some p =>
    have begun : ∀ q ∈ u.out.eraseIdx index, q.period ≤ u.period := fun q mem =>
      sound.begun q (List.mem_of_mem_eraseIdx mem)
    have probes := u.breaker.settle_probes p.probe outcome u.clock
    by_cases same : (u.breaker.settle p.probe outcome u.clock).state = u.breaker.state
    · rw [if_pos same] at probes
      have count := countP_eraseIdx held (Pass.isCurrent u.breaker.state u.period)
      have bounded := sound.bounded
      simp only [probesOut] at bounded
      refine ⟨?_, ?_, begun⟩
      · simpa [lateAfter, same, probesOut, probes] using release_slots sound held
      · simp only [lateAfter, same, if_true, probesOut, Breaker.settle_config]
        omega
    · rw [if_neg same] at probes
      have other := u.breaker.settle_state_ne_halfOpen p.probe outcome u.clock same
      refine ⟨?_, ?_, begun⟩
      · simp [lateAfter, same, probes, probesOut, countP_isCurrent_of_ne other]
      · simp [probesOut, countP_isCurrent_of_ne other]

theorem reset_accounted {u : InUse} (sound : Accounted u) :
    Accounted { u with breaker := u.breaker.reset, late := 0 } := by
  have none_out := probesOut_eq_zero { u with breaker := u.breaker.reset, late := 0 } (by simp [Breaker.reset])
  constructor
  · rw [none_out]; rfl
  · rw [none_out]; exact Nat.zero_le _
  · exact sound.begun

theorem acquire_answers (u : InUse) :
    ∃ admission after, u.breaker.Admits u.clock admission after ∧
      u.acquire = u.answer admission after :=
  ⟨_, _, u.breaker.tryAcquire_admits u.clock, rfl⟩

theorem step_accounted {u : InUse} (sound : Accounted u) (move : Move) :
    Accounted (u.step move) := by
  cases move with
  | acquire =>
    obtain ⟨admission, after, admits, same⟩ := u.acquire_answers
    rw [step, same]
    exact answer_accounted sound admits
  | giveBack index outcome => exact giveBack_accounted sound index outcome
  | reset => exact reset_accounted sound
  | setClock reading => exact ⟨sound.slots, sound.bounded, sound.begun⟩

theorem run_accounted {u : InUse} (sound : Accounted u) (moves : List Move) :
    Accounted (u.run moves) := by
  induction moves generalizing u with
  | nil => exact sound
  | cons move rest ih => exact ih (step_accounted sound move)

theorem reached_accounted (key : String) (config : Config) (moves : List Move) :
    Accounted (reached key config moves) := run_accounted (start_accounted key config) moves

end InUse

end Governance.Circuit
