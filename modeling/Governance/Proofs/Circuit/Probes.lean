import Governance.Proofs.Circuit.InUse
import Mathlib.Data.List.Induction

set_option autoImplicit false

namespace Governance.Circuit.InUse

def limit (u : InUse) : Nat := u.breaker.config.halfOpenMaxCalls.toNat

def Admits (u : InUse) : Prop := (u.breaker.tryAcquire u.clock).1 ≠ .refused

-- Nothing but the slots stands against an admission.
def Due (u : InUse) : Prop :=
  u.breaker.state = .opened → u.breaker.openedAt.toNat + u.breaker.recovery.toNat ≤ u.clock.toNat

instance (u : InUse) : Decidable u.Admits := inferInstanceAs (Decidable (_ ≠ _))

instance (u : InUse) : Decidable u.Due := inferInstanceAs (Decidable (_ → _))

theorem not_recovering_of_due {u : InUse} (due : u.Due) (opened : u.breaker.state = .opened) :
    ¬ u.breaker.isRecovering u.clock := by
  have elapsed := due opened
  simp only [Breaker.isRecovering, decide_eq_true_eq, UInt64.lt_iff_toNat_lt, Millis.toNat_since]
  omega

theorem admits_iff_of_due {u : InUse} (due : u.Due) :
    u.Admits ↔ u.breaker.state = .closed ∨ u.breaker.hasSlot := by
  rw [Admits, Breaker.admission_ne_refused_iff]
  cases state : u.breaker.state with
  | closed => simp
  | opened => simp [Breaker.OffersProbes, state, not_recovering_of_due due state]
  | halfOpen => simp [Breaker.OffersProbes, state]

structure Stuck (u : InUse) : Prop where
  none_out : u.out = []
  not_closed : u.breaker.state ≠ .closed
  full : ¬ u.breaker.hasSlot

theorem not_admits_of_stuck {u : InUse} (stuck : Stuck u) : ¬ u.Admits := by
  rw [Admits, Breaker.admission_ne_refused_iff]
  rintro (closed | ⟨-, slot⟩)
  · exact stuck.not_closed closed
  · exact stuck.full slot

theorem acquire_stuck {u : InUse} (stuck : Stuck u) : Stuck u.acquire := by
  obtain ⟨admission, after, admits, same⟩ := u.acquire_answers
  rw [same]
  cases admits with
  | call closed => exact absurd closed stuck.not_closed
  | recovering opened recovering =>
    exact ⟨by simp [answer, Admission.pass?, stuck.none_out], stuck.not_closed, stuck.full⟩
  | probe offers slot => exact absurd slot stuck.full
  | full offers full =>
    exact ⟨by simp [answer, Admission.pass?, stuck.none_out], by simp [answer], full⟩

theorem step_stuck {u : InUse} (stuck : Stuck u) (move : Move) (kept : move ≠ .reset) :
    Stuck (u.step move) := by
  cases move with
  | acquire => exact acquire_stuck stuck
  | giveBack index outcome => simpa [step, giveBack, stuck.none_out] using stuck
  | reset => exact absurd rfl kept
  | setClock reading => exact ⟨stuck.none_out, stuck.not_closed, stuck.full⟩

theorem run_stuck {u : InUse} (stuck : Stuck u) (moves : List Move) (kept : .reset ∉ moves) :
    Stuck (u.run moves) := by
  induction moves generalizing u with
  | nil => exact stuck
  | cons move rest ih =>
    have first : move ≠ .reset := by rintro rfl; simp at kept
    exact ih (step_stuck stuck move first) (fun mem => kept (List.mem_cons_of_mem _ mem))

theorem step_config (u : InUse) (move : Move) :
    (u.step move).breaker.config = u.breaker.config := by
  cases move with
  | acquire => exact (u.breaker.tryAcquire_admits u.clock).config_eq
  | giveBack index outcome =>
    simp only [step, giveBack]
    split <;> simp
  | reset | setClock => rfl

theorem run_config (u : InUse) (moves : List Move) :
    (u.run moves).breaker.config = u.breaker.config := by
  induction moves generalizing u with
  | nil => rfl
  | cons move rest ih => exact (ih (u.step move)).trans (step_config u move)

theorem reached_config (key : String) (config : Config) (moves : List Move) :
    (reached key config moves).breaker.config = config := run_config _ moves

theorem reached_concat (key : String) (config : Config) (moves : List Move) (move : Move) :
    reached key config (moves ++ [move]) = (reached key config moves).step move := by
  simp [reached, run]

/-- With no permit out, and nothing else against it, a breaker that is not closed admits exactly if
the late probes since its slots were cleared, taken below zero in 64 bits, leave the count below
the limit. Otherwise it admits nobody any more until it is reset. -/
theorem admits_iff_none_below (key : String) (config : Config) (moves : List Move)
    (none_out : (reached key config moves).out = []) (due : (reached key config moves).Due) :
    ((reached key config moves).Admits ↔
      (reached key config moves).breaker.state = .closed ∨
        0 - UInt64.ofNat (reached key config moves).late < config.halfOpenMaxCalls) ∧
    (¬ (reached key config moves).Admits → ∀ later, .reset ∉ later →
      ¬ ((reached key config moves).run later).Admits) := by
  have slots := (reached_accounted key config moves).slots
  have atLimit := reached_config key config moves
  generalize reached key config moves = u at *
  have count : u.breaker.probes = 0 - UInt64.ofNat u.late := by
    simp only [probesOut, none_out, List.countP_nil] at slots
    grind
  have slot : u.breaker.hasSlot = true ↔ 0 - UInt64.ofNat u.late < config.halfOpenMaxCalls := by
    simp [Breaker.hasSlot, count, atLimit]
  have admits := admits_iff_of_due due
  constructor
  · rw [admits, slot]
  · intro refused later kept
    rw [admits, not_or] at refused
    have stuck : Stuck u := ⟨none_out, refused.1, refused.2⟩
    exact not_admits_of_stuck (run_stuck stuck later kept)

def twoProbes : Config := ⟨1, .ofMillis 10, 2, by decide, by decide, by decide⟩

-- The breaker opens, two probes pass, and the failure of one opens it again while the other is out.
def straggler : List Move :=
  [.acquire, .giveBack 0 .failure, .setClock 10, .acquire, .acquire, .giveBack 0 .failure]

def lockout : List Move := straggler ++ [.giveBack 0 .dropped, .setClock 20]

theorem straggler_locks_out :
    (reached "svc@h:1" twoProbes lockout).out = [] ∧
      (reached "svc@h:1" twoProbes lockout).Due ∧
      ¬ (reached "svc@h:1" twoProbes lockout).Admits := by
  decide

theorem admits_iff_none_below_lockout :
    (reached "svc@h:1" twoProbes lockout).out = [] ∧
      (reached "svc@h:1" twoProbes lockout).Due ∧
      ((reached "svc@h:1" twoProbes lockout).Admits ↔
        (reached "svc@h:1" twoProbes lockout).breaker.state = .closed ∨
          0 - UInt64.ofNat (reached "svc@h:1" twoProbes lockout).late <
            twoProbes.halfOpenMaxCalls) :=
  ⟨by decide, by decide,
    (admits_iff_none_below "svc@h:1" twoProbes lockout (by decide) (by decide)).1⟩

theorem probesOut_giveBack_le (u : InUse) (index : Nat) (outcome : Breaker.Outcome) :
    (u.giveBack index outcome).probesOut ≤ u.probesOut := by
  unfold giveBack
  cases held : u.out[index]? with
  | none => exact Nat.le_refl _
  | some p =>
    by_cases same : (u.breaker.settle p.probe outcome u.clock).state = u.breaker.state
    · have count := countP_eraseIdx held (Pass.isCurrent u.breaker.state u.period)
      simp only [probesOut, same]
      omega
    · have other := u.breaker.settle_state_ne_halfOpen p.probe outcome u.clock same
      simp [probesOut, countP_isCurrent_of_ne other]

def Overfills (u : InUse) : Prop :=
  u.breaker.state = .halfOpen ∧ u.probesOut = u.limit ∧
    u.breaker.config.halfOpenMaxCalls - UInt64.ofNat u.late < u.breaker.config.halfOpenMaxCalls

theorem hasSlot_iff_of_full {u : InUse} (sound : Accounted u) (full : u.probesOut = u.limit) :
    u.breaker.hasSlot = true ↔
      u.breaker.config.halfOpenMaxCalls - UInt64.ofNat u.late < u.breaker.config.halfOpenMaxCalls := by
  have slots := sound.slots
  rw [full, limit, UInt64.ofNat_toNat] at slots
  have count : u.breaker.probes = u.breaker.config.halfOpenMaxCalls - UInt64.ofNat u.late := by grind
  simp [Breaker.hasSlot, count]

theorem probesOut_acquire {u : InUse} (sound : Accounted u) :
    u.acquire.probesOut =
      u.probesOut + if (u.breaker.tryAcquire u.clock).1 = .probe then 1 else 0 :=
  probesOut_answer sound (u.breaker.tryAcquire_admits u.clock)

theorem limit_pos (u : InUse) : 0 < u.limit := by
  have positive := u.breaker.config.limit_ne
  rw [limit, Nat.pos_iff_ne_zero]
  intro zero
  exact positive (UInt64.toNat_inj.1 zero)

theorem halfOpen_of_probesOut_pos {u : InUse} (some_out : 0 < u.probesOut) :
    u.breaker.state = .halfOpen := by
  by_contra other
  have none_out := probesOut_eq_zero u other
  omega

theorem acquire_exceeds_iff {u : InUse} (sound : Accounted u) (within : u.probesOut ≤ u.limit) :
    u.limit < u.acquire.probesOut ↔ u.Overfills := by
  rw [probesOut_acquire sound]
  constructor
  · intro beyond
    have probe : (u.breaker.tryAcquire u.clock).1 = .probe := by
      by_contra other
      rw [if_neg other] at beyond
      omega
    rw [if_pos probe] at beyond
    have full : u.probesOut = u.limit := by omega
    have admits := u.breaker.tryAcquire_admits u.clock
    rw [probe] at admits
    have some_out : 0 < u.probesOut := full ▸ limit_pos u
    exact ⟨halfOpen_of_probesOut_pos some_out, full, (hasSlot_iff_of_full sound full).1 admits.hasSlot⟩
  · rintro ⟨half, full, room⟩
    have slot := (hasSlot_iff_of_full sound full).2 room
    have probe : (u.breaker.tryAcquire u.clock).1 = .probe := by
      simp [Breaker.tryAcquire, half, Breaker.takeSlot, slot]
    rw [if_pos probe]
    omega

theorem step_exceeds_iff {u : InUse} (sound : Accounted u) (within : u.probesOut ≤ u.limit)
    (move : Move) : u.limit < (u.step move).probesOut ↔ move = .acquire ∧ u.Overfills := by
  cases move with
  | acquire => simpa [step] using acquire_exceeds_iff sound within
  | giveBack index outcome =>
    have fewer := probesOut_giveBack_le u index outcome
    simp only [step, reduceCtorEq, false_and, iff_false]
    omega
  | reset => simp [step, probesOut_eq_zero, Breaker.reset]
  | setClock reading =>
    simp only [step, reduceCtorEq, false_and, iff_false, Nat.not_lt]
    exact within

theorem limit_reached (key : String) (config : Config) (moves : List Move) :
    (reached key config moves).limit = config.halfOpenMaxCalls.toNat := by
  rw [limit, reached_config]

/-- The probes of a period that are out are never more than the limit and the late ones together.
They stay within the limit itself throughout a run exactly if the run never acquires while all
slots are taken and late probes have made room. -/
theorem limit_kept_iff (key : String) (config : Config) (moves : List Move) :
    (reached key config moves).probesOut ≤
      config.halfOpenMaxCalls.toNat + (reached key config moves).late ∧
    ((∀ part, part <+: moves →
        (reached key config part).probesOut ≤ config.halfOpenMaxCalls.toNat) ↔
      ∀ part, part ++ [.acquire] <+: moves → ¬ (reached key config part).Overfills) := by
  have next (part : List Move) (move : Move)
      (within : (reached key config part).probesOut ≤ config.halfOpenMaxCalls.toNat) :=
    step_exceeds_iff (reached_accounted key config part) (limit_reached key config part ▸ within) move
  simp only [limit_reached, ← reached_concat] at next
  refine ⟨?_, ?_, ?_⟩
  · have bounded := (reached_accounted key config moves).bounded
    rwa [reached_config] at bounded
  · intro within part acquired overfills
    have before := within part ((List.prefix_append part [.acquire]).trans acquired)
    have after := within _ acquired
    have beyond := (next part .acquire before).2 ⟨rfl, overfills⟩
    omega
  · intro never part
    induction part using List.reverseRecOn with
    | nil => exact fun _ => Nat.zero_le _
    | append_singleton part move ih =>
      intro made
      have before := ih ((List.prefix_append part [move]).trans made)
      by_contra beyond
      obtain ⟨rfl, overfills⟩ := (next part move before).1 (by omega)
      exact never part made overfills

theorem straggler_lets_third_probe_pass :
    (reached "svc@h:1" twoProbes (straggler ++
      [.setClock 20, .acquire, .acquire, .giveBack 0 .dropped, .acquire])).probesOut = 3 := by
  decide

def DecidedByProbe (u : InUse) (move : Move) : Prop :=
  ∃ index p, u.out[index]? = some p ∧ u.isCurrent p ∧
    (move = .giveBack index .success ∧ (u.step move).breaker.state = .closed ∨
      move = .giveBack index .failure ∧ (u.step move).breaker.state = .opened)

def ToldByOutsider (u : InUse) (move : Move) : Prop :=
  u.breaker.state = .halfOpen ∧
    ∃ index outcome p, move = .giveBack index outcome ∧ outcome ≠ .dropped ∧
      u.out[index]? = some p ∧ ¬ u.isCurrent p

theorem acquire_halfOpen (u : InUse) (half : u.breaker.state = .halfOpen) :
    u.acquire.breaker.state = .halfOpen := by
  obtain ⟨admission, after, admits, same⟩ := u.acquire_answers
  rw [same]
  cases admits with
  | call => exact half
  | recovering => exact half
  | probe | full => rfl

theorem giveBack_state_of_halfOpen {u : InUse} (half : u.breaker.state = .halfOpen) {index : Nat}
    {p : Pass} (held : u.out[index]? = some p) (outcome : Breaker.Outcome) :
    (u.giveBack index outcome).breaker.state = outcome.verdict := by
  simpa [giveBack, held] using
    u.breaker.settle_state_of_halfOpen p.probe outcome u.clock half

theorem told_of_halfOpen_ends {u : InUse} (half : u.breaker.state = .halfOpen) {move : Move}
    (kept : move ≠ .reset) (ends : (u.step move).breaker.state ≠ .halfOpen) :
    ∃ index outcome p, move = .giveBack index outcome ∧ outcome ≠ .dropped ∧
      u.out[index]? = some p := by
  cases move with
  | acquire => exact absurd (acquire_halfOpen u half) ends
  | giveBack index outcome =>
    cases held : u.out[index]? with
    | none => simp [step, giveBack, held, half] at ends
    | some p =>
      refine ⟨index, outcome, p, rfl, ?_, held⟩
      rintro rfl
      exact ends (giveBack_state_of_halfOpen half held .dropped)
  | reset => exact absurd rfl kept
  | setClock reading => exact absurd half ends

theorem decidedByProbe_iff {u : InUse} (half : u.breaker.state = .halfOpen) {index : Nat}
    {outcome : Breaker.Outcome} {p : Pass} (held : u.out[index]? = some p)
    (told : outcome ≠ .dropped) : u.DecidedByProbe (.giveBack index outcome) ↔ u.isCurrent p := by
  have state := giveBack_state_of_halfOpen half held outcome
  constructor
  · rintro ⟨index', q, held', current, ⟨same, -⟩ | ⟨same, -⟩⟩
    all_goals
      obtain ⟨rfl, rfl⟩ := Move.giveBack.inj same
      rw [held] at held'
      exact Option.some.inj held' ▸ current
  · intro current
    refine ⟨index, p, held, current, ?_⟩
    cases outcome with
    | success => exact .inl ⟨rfl, state⟩
    | failure => exact .inr ⟨rfl, state⟩
    | dropped => exact absurd rfl told

/-- Throughout a run every half-open period that is not reset is ended by one of its own probes,
by a success for the closed state and by a failure for the open one, exactly if no outcome of a
call from before is told while the breaker is half-open. -/
theorem probes_decide_iff (key : String) (config : Config) (moves : List Move) :
    (∀ part move, part ++ [move] <+: moves → move ≠ .reset →
        (reached key config part).breaker.state = .halfOpen →
        (reached key config (part ++ [move])).breaker.state ≠ .halfOpen →
        (reached key config part).DecidedByProbe move) ↔
      ∀ part move, part ++ [move] <+: moves → ¬ (reached key config part).ToldByOutsider move := by
  simp only [reached_concat]
  constructor
  · rintro decided part _ made ⟨half, index, outcome, p, rfl, told, held, outsider⟩
    have state := giveBack_state_of_halfOpen half held outcome
    have ends : outcome.verdict ≠ .halfOpen := by cases outcome <;> simp_all [Breaker.Outcome.verdict]
    have byProbe := decided part _ made (by simp) half (state ▸ ends)
    exact outsider ((decidedByProbe_iff half held told).1 byProbe)
  · intro never part move made kept half ends
    obtain ⟨index, outcome, p, rfl, told, held⟩ := told_of_halfOpen_ends half kept ends
    rw [decidedByProbe_iff half held told]
    by_contra outsider
    exact never part _ made ⟨half, index, outcome, p, rfl, told, held, outsider⟩

-- Of two calls that passed the closed breaker one fails, and a probe passes while the other is out.
def slowCall : List Move :=
  [.acquire, .acquire, .giveBack 0 .failure, .setClock 10, .acquire]

theorem slowCall_closes :
    (reached "svc@h:1" twoProbes slowCall).breaker.state = .halfOpen ∧
      (reached "svc@h:1" twoProbes slowCall).out = [⟨false, 0⟩, ⟨true, 1⟩] ∧
      (reached "svc@h:1" twoProbes (slowCall ++ [.giveBack 0 .success])).breaker.state =
        .closed := by
  decide

end Governance.Circuit.InUse
