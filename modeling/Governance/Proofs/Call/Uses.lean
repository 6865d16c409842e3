import Governance.Proofs.Call.Tripped
import Governance.Proofs.Circuit.Uses

set_option autoImplicit false

namespace Governance.Call

variable {σ α : Type}

open Governance.Call.Flow Governance.Circuit

def SameBreakers (s later : Session σ) : Prop := later.breakers = s.breakers

-- The relation holds of all that is not the call's own doing: of the gap before it, and of each
-- step of the adapter, of pauses and of the sink.
structure Turn.Within (R : Session σ → Session σ → Prop) (t : Turn σ) : Prop where
  gap : ∀ s, R s (t.gap s)
  route : ∀ s, R s (t.call.adapter.route t.call.request s).2
  invoke : ∀ e s, R s (t.call.adapter.invoke t.call.request e s).2
  onSuccess : ∀ e s, R s (t.call.adapter.onSuccess t.call.request e s)
  onFailure : ∀ e error s, R s (t.call.adapter.onFailure t.call.request e error s)
  sleep : ∀ d s, R s (t.call.invoker.sleep d s)
  deliver : ∀ event s, R s (t.call.invoker.deliver event s).1

theorem Turn.Within.sameBreakers {t : Turn σ} (within : t.Within SameBreakers) :
    Parts SameBreakers t.call where
  refl _ := rfl
  trans first second := second.trans first
  route := within.route
  onSuccess := within.onSuccess
  onFailure := within.onFailure
  sleep := within.sleep
  deliver := within.deliver
  balance _ _ _ := rfl

def BreaksValidly (c : Call σ α) : Prop :=
  ∀ p, c.limits.breaker = some p → ∃ config, Config.ofPolicy p = .ok config

namespace Round

def pool (c : Call σ α) (r : Round σ) : List Endpoint :=
  match (c.route.run r.found).value with
  | .ok pool => pool
  | .error _ => []

def use (c : Call σ α) (r : Round σ) (config : Config) (elected : Elected) : Use where
  service := c.request.service
  address := elected.endpoint.address
  config := config
  live := (r.pool c).map Endpoint.address
  asked := (r.announcement c elected).session.clock
  outcome := (r.outcome c).value.verdict?.getD .dropped
  told := (r.answer c elected).2.clock

def use? (c : Call σ α) (r : Round σ) : Option Use :=
  match (r.election c).value, c.limits.breaker.map Config.ofPolicy with
  | .ok elected, some (.ok config) => some (r.use c config elected)
  | _, _ => none

section Use

variable {c : Call σ α} {r : Round σ} {elected : Elected} {p : BreakerPolicy} {config : Config}

theorem use?_of_unelected {e : GovernanceError} (unelected : (r.election c).value = .error e) :
    r.use? c = none := by
  unfold use?
  rw [unelected]

theorem use?_of_unbroken (unbroken : c.limits.breaker = none) : r.use? c = none := by
  unfold use?
  rw [unbroken]
  cases (r.election c).value <;> rfl

theorem use?_of_elected (chosen : (r.election c).value = .ok elected)
    (policy : c.limits.breaker = some p) (valid : Config.ofPolicy p = .ok config) :
    r.use? c = some (r.use c config elected) := by
  unfold use?
  rw [chosen, policy, Option.map_some, valid]

theorem of_use? {u : Use} (used : r.use? c = some u) :
    ∃ elected config, (r.election c).value = .ok elected ∧ u = r.use c config elected := by
  unfold use? at used
  split at used
  · cases used
    exact ⟨_, _, ‹_›, rfl⟩
  · cases used

theorem session_of_refused {refusal : GovernanceError}
    (chosen : (r.election c).value = .ok elected)
    (refused : (r.admission c elected).value = .error refusal) :
    (r.outcome c).session =
      ((c.judge r.counter elected.endpoint none (.refused refusal)).run
        (r.admission c elected).session).session := by
  unfold outcome attempt
  rw [run_bind_after, ← earlier, ← election, chosen]
  dsimp only
  rw [run_bind_after, ← announcement, run_bind_after, ← admission, refused]
  rfl

end Use

end Round

theorem breakerFor_provides {c : Call σ α} {s : Session σ} {e : Endpoint} {pool : List Endpoint}
    {p : BreakerPolicy} {reg : Registry} (u : Use) (held : s.breakers = some reg)
    (policy : c.limits.breaker = some p) (valid : Config.ofPolicy p = .ok u.config)
    (service : u.service = c.request.service) (address : u.address = e.address)
    (live : u.live = pool.map Endpoint.address) :
    ((c.breakerFor e pool).run s).value = some (reg.provide u).1 ∧
      ((c.breakerFor e pool).run s).session =
        { s with breakers := some (reg.provide u).2 } := by
  unfold breakerFor
  rw [run_session_bind, held, policy, ← service, ← address, ← Use.key]
  dsimp only
  unfold Registry.provide
  cases found : reg.get? u.key with
  | some h =>
    dsimp only
    rw [← held]
    exact ⟨rfl, rfl⟩
  | none =>
    dsimp only
    rw [live, service]
    exact register_run c pool s (Registry.obtain_of_valid found valid)

theorem acquire_refused_run {s : Session σ} {reg : Registry} {h : Handle} {b : Breaker}
    (held : s.breakers = some reg) (breaker : reg.breaker? h = some b)
    (refused : (reg.acquire h s.clock).permit = none) :
    ((acquire (some h)).run s).value = .error (.circuitOpen b.key) ∧
      ((acquire (some h)).run s).session =
        { s with breakers := some (reg.acquire h s.clock).registry } := by
  unfold acquire
  rw [run_session_bind, held]
  dsimp only
  rw [breaker]
  dsimp only
  rw [refused]
  exact ⟨rfl, rfl⟩

theorem acquire_none (s : Session σ) :
    (acquire none : Flow σ (Except GovernanceError (Option Permit))).run s = ⟨.ok none, s, []⟩ := by
  unfold acquire
  rw [run_session_bind]
  split
  · rename_i handle
    cases handle
  · rfl

theorem settle_none (s : Session σ) (outcome : Breaker.Outcome) :
    ((settle none outcome).run s).session = s := by
  unfold settle
  rw [run_session_bind]
  split
  · rename_i permit
    cases permit
  · rfl

namespace Round

section Step

variable {t : Turn σ} {r : Round σ} {elected : Elected} {p : BreakerPolicy} {config : Config}
  {reg : Registry}

theorem picked_breakers (within : t.Within SameBreakers) (candidates : List Endpoint) :
    ((t.call.pick r.earlier candidates).run (t.call.route.run r.found).session).session.breakers =
      r.found.breakers :=
  (within.sameBreakers.pick r.earlier candidates (t.call.route.run r.found).session).trans
    (within.sameBreakers.listing r.found)

theorem elected_of_unbroken (within : t.Within SameBreakers)
    (unbroken : t.call.limits.breaker = none) (chosen : (r.election t.call).value = .ok elected) :
    elected.breaker = none ∧ (r.election t.call).session.breakers = r.found.breakers := by
  obtain ⟨pool, candidates, how⟩ := elect_of_ok chosen
  obtain ⟨value, session⟩ := breakerFor_of_unbroken unbroken elected.endpoint pool
    ((t.call.pick r.earlier candidates).run (t.call.route.run r.found).session).session
  rw [election, ← how.left, ← how.breaker, value, session]
  exact ⟨rfl, picked_breakers within candidates⟩

theorem elected_of_broken (within : t.Within SameBreakers) (held : r.found.breakers = some reg)
    (policy : t.call.limits.breaker = some p) (valid : Config.ofPolicy p = .ok config)
    (chosen : (r.election t.call).value = .ok elected) :
    elected.breaker = some (reg.provide (r.use t.call config elected)).1 ∧
      (r.election t.call).session.breakers =
        some (reg.provide (r.use t.call config elected)).2 := by
  obtain ⟨pool, candidates, how⟩ := elect_of_ok chosen
  have live : (r.use t.call config elected).live = pool.map Endpoint.address := by
    rw [use, Round.pool, how.listed]
  obtain ⟨value, session⟩ := breakerFor_provides (r.use t.call config elected)
    ((picked_breakers within candidates).trans held) policy valid rfl rfl live
  rw [election, ← how.left, ← how.breaker, value, session]
  exact ⟨rfl, rfl⟩

theorem same_of_unbroken (within : t.Within SameBreakers)
    (unbroken : t.call.limits.breaker = none) (chosen : (r.election t.call).value = .ok elected) :
    (r.outcome t.call).session.breakers = r.found.breakers := by
  obtain ⟨handle, same⟩ := elected_of_unbroken within unbroken chosen
  have announced : (r.announcement t.call elected).session.breakers =
      (r.election t.call).session.breakers := within.sameBreakers.emit _ _
  have admission : r.admission t.call elected =
      ⟨.ok none, (r.announcement t.call elected).session, []⟩ := by
    rw [Round.admission, handle, acquire_none]
  have admitted : (r.admission t.call elected).value = .ok none := by rw [admission]
  have answered := within.invoke elected.endpoint (r.admission t.call elected).session
  have invoked := within.sameBreakers.invoke r.counter elected.endpoint none
    (r.admission t.call elected).session
  rw [settle_none] at invoked
  rw [outcome_of_admitted chosen admitted]
  refine (invoked.trans answered).trans ?_
  rw [admission]
  exact announced.trans same

section Broken

variable (within : t.Within SameBreakers) (sound : reg.Sound)
  (chosen : (r.election t.call).value = .ok elected)
  (handle : elected.breaker = some (reg.provide (r.use t.call config elected)).1)
  (provided : (r.announcement t.call elected).session.breakers =
    some (reg.provide (r.use t.call config elected)).2)

include within sound chosen handle provided

theorem use_of_refused
    (refused : ((reg.taken (r.use t.call config elected)).tryAcquire
      (r.use t.call config elected).asked).1 = .refused) :
    (r.outcome t.call).session.breakers = some (reg.use (r.use t.call config elected)) := by
  obtain ⟨given, registry⟩ := sound.acquire_of_refused refused
  obtain ⟨value, session⟩ := acquire_refused_run provided (sound.provided _) given
  rw [← handle, ← admission] at value session
  have judged := within.sameBreakers.judge r.counter elected.endpoint none
    (.refused (.circuitOpen (reg.taken (r.use t.call config elected)).key))
    (r.admission t.call elected).session
  rw [settle_none, ← session_of_refused chosen value] at judged
  rw [judged, session]
  exact congrArg some registry

theorem use_of_admitted
    (passes : ((reg.taken (r.use t.call config elected)).tryAcquire
      (r.use t.call config elected).asked).1 ≠ .refused) :
    (r.outcome t.call).session.breakers = some (reg.use (r.use t.call config elected)) := by
  obtain ⟨permit, given, settled⟩ := sound.settle_of_acquired passes
  obtain ⟨value, session⟩ := acquire_run provided (sound.provided _) given
  rw [← handle, ← admission] at value session
  have answered := (within.invoke elected.endpoint (r.admission t.call elected).session).trans
    (congrArg Session.breakers session)
  rw [← answer] at answered
  have invoked := within.sameBreakers.invoke r.counter elected.endpoint (some permit)
    (r.admission t.call elected).session
  rw [SameBreakers, ← answer, settle_run answered] at invoked
  have verdict : (r.use t.call config elected).outcome =
      t.call.told (r.answer t.call elected).1 := by
    change (r.outcome t.call).value.verdict?.getD .dropped = _
    rw [outcome_of_admitted chosen value]
    exact congrArg (·.getD .dropped) (invoke_verdict _ _ _ _ _)
  rw [verdict] at settled
  rw [outcome_of_admitted chosen value]
  exact invoked.trans (congrArg some settled)

end Broken

theorem step_uses (within : t.Within SameBreakers) (valid : BreaksValidly t.call)
    (sound : reg.Sound) (held : r.found.breakers = some reg) :
    (r.outcome t.call).session.breakers = some (reg.uses (r.use? t.call).toList) := by
  cases chosen : (r.election t.call).value with
  | error e =>
    have left := within.sameBreakers.elect_of_error chosen
    rw [use?_of_unelected chosen, outcome_of_unelected chosen]
    exact left.trans held
  | ok elected =>
    cases policy : t.call.limits.breaker with
    | none =>
      rw [use?_of_unbroken policy]
      exact (same_of_unbroken within policy chosen).trans held
    | some p =>
      obtain ⟨config, valid⟩ := valid p policy
      obtain ⟨handle, provided⟩ := elected_of_broken within held policy valid chosen
      have announced := (within.sameBreakers.emit
        (.elected t.call.request.service elected.endpoint.address r.counter) _).trans provided
      rw [use?_of_elected chosen policy valid]
      by_cases refused : ((reg.taken (r.use t.call config elected)).tryAcquire
          (r.use t.call config elected).asked).1 = .refused
      · exact use_of_refused within sound chosen handle announced refused
      · exact use_of_admitted within sound chosen handle announced refused

end Step

end Round

namespace Made

def found (m : Made σ) : Registry := m.round.found.breakers.getD .empty

def left (m : Made σ) : Registry := m.outcome.session.breakers.getD .empty

def use? (m : Made σ) : Option Use := m.round.use? m.call

def uses (made : List (Made σ)) : List Use := made.flatMap (·.use?.toList)

@[simp]
theorem uses_nil : uses ([] : List (Made σ)) = [] := rfl

@[simp]
theorem uses_cons (m : Made σ) (later : List (Made σ)) :
    uses (m :: later) = m.use?.toList ++ uses later := List.flatMap_cons

theorem uses_append (first second : List (Made σ)) :
    uses (first ++ second) = uses first ++ uses second := List.flatMap_append

def isAt (key : String) (m : Made σ) : Bool := m.use?.any (·.key == key)

def Makes (m : Made σ) : Prop := ∃ u, m.use? = some u ∧ m.found.Makes u

-- The attempt makes a breaker and thereby forgets the one under the key, which may be its own.
def Drops (m : Made σ) (key : String) : Prop := ∃ u, m.use? = some u ∧ m.found.Drops u key

structure UsesOnly (m : Made σ) (reg : Registry) : Prop where
  found : m.found = reg
  left : m.left = reg.uses m.use?.toList
  takes : ∀ elected p, (m.round.election m.call).value = .ok elected →
    m.call.limits.breaker = some p →
      ∃ config, Config.ofPolicy p = .ok config ∧
        elected.breaker = some (reg.provide (m.round.use m.call config elected)).1

end Made

def InTurn (reg : Registry) : List (Made σ) → Prop
  | [] => True
  | m :: later => m.UsesOnly reg ∧ InTurn (reg.uses m.use?.toList) later

section Runs

variable {t : Turn σ} {s later : Session σ} {reg : Registry}

theorem inTurn_append_iff {first second : List (Made σ)} :
    InTurn reg (first ++ second) ↔
      InTurn reg first ∧ InTurn (reg.uses (Made.uses first)) second := by
  induction first generalizing reg with
  | nil => simp [InTurn, Registry.uses]
  | cons m rest ih => simp [InTurn, ih, Registry.uses_append, and_assoc]

theorem InTurn.of_mem {made : List (Made σ)} {m : Made σ} (inTurn : InTurn reg made)
    (sound : reg.Sound) (mem : m ∈ made) : ∃ reg', reg'.Sound ∧ m.UsesOnly reg' := by
  obtain ⟨before, after, rfl⟩ := List.append_of_mem mem
  exact ⟨_, sound.uses _, (inTurn_append_iff.1 inTurn).2.1⟩

theorem InTurn.left_of_concat {before : List (Made σ)} {m : Made σ}
    (inTurn : InTurn reg (before ++ [m])) :
    m.left = reg.uses (Made.uses (before ++ [m])) := by
  rw [(inTurn_append_iff.1 inTurn).2.1.left, ← Registry.uses_append, Made.uses_append,
    Made.uses_cons, Made.uses_nil, List.append_nil]

theorem InTurn.after {before after : List (Made σ)} {last : Made σ}
    (inTurn : InTurn reg (before ++ last :: after)) (sound : reg.Sound) :
    last.left.Sound ∧ InTurn last.left after := by
  obtain ⟨uses, rest⟩ := (inTurn_append_iff.1 inTurn).2
  rw [uses.left]
  exact ⟨(sound.uses _).uses _, rest⟩

theorem InTurn.between {before between after : List (Made σ)} {last m : Made σ}
    (inTurn : InTurn reg (before ++ last :: (between ++ m :: after))) (sound : reg.Sound) :
    last.left.Sound ∧ InTurn last.left between ∧
      m.found = last.left.uses (Made.uses between) := by
  obtain ⟨leftSound, rest⟩ := inTurn.after sound
  obtain ⟨inBetween, next⟩ := inTurn_append_iff.1 rest
  exact ⟨leftSound, inBetween, next.1.found⟩

section Step

variable {m : Made σ} {key : String} {h : Handle}

theorem Made.UsesOnly.drops_iff (uses : m.UsesOnly reg) {u : Use} (used : m.use? = some u) :
    m.Drops key ↔ reg.Drops u key := by
  simp [Made.Drops, used, uses.found]

theorem Made.own_uses (own : reg.Own key h) (m : Made σ) :
    (reg.uses m.use?.toList).Own key h := by
  cases m.use? with
  | none => exact own
  | some u => exact own.use u

theorem Made.UsesOnly.get?_iff (uses : m.UsesOnly reg) (own : reg.Own key h) :
    (reg.uses m.use?.toList).get? key = some h ↔ reg.get? key = some h ∧ ¬ m.Drops key := by
  cases used : m.use? with
  | none => simp [Registry.uses, Made.Drops, used]
  | some u =>
    rw [uses.drops_iff used]
    exact Registry.get?_use_eq_some_iff own.known

theorem Made.breaker?_uses (own : reg.Own key h) (elsewhere : m.isAt key = false) :
    (reg.uses m.use?.toList).breaker? h = reg.breaker? h := by
  cases used : m.use? with
  | none => rfl
  | some u => exact Registry.breaker?_use own (by simpa [Made.isAt, used] using elsewhere)

end Step

section Frame

variable {key : String} {h : Handle} {made : List (Made σ)}

theorem InTurn.get?_iff (inTurn : InTurn reg made) (own : reg.Own key h) :
    (reg.uses (Made.uses made)).get? key = some h ↔
      reg.get? key = some h ∧ ∀ m ∈ made, ¬ m.Drops key := by
  induction made generalizing reg with
  | nil => simp [Registry.uses]
  | cons m later ih =>
    obtain ⟨uses, rest⟩ := inTurn
    rw [Made.uses_cons, Registry.uses_append, ih rest (Made.own_uses own m), uses.get?_iff own,
      List.forall_mem_cons, and_assoc]

theorem InTurn.breaker?_eq (inTurn : InTurn reg made) (own : reg.Own key h)
    (elsewhere : ∀ m ∈ made, m.isAt key = false) :
    (reg.uses (Made.uses made)).breaker? h = reg.breaker? h := by
  induction made generalizing reg with
  | nil => rfl
  | cons m later ih =>
    obtain ⟨here, others⟩ := List.forall_mem_cons.1 elsewhere
    rw [Made.uses_cons, Registry.uses_append, ih inTurn.2 (Made.own_uses own m) others]
    exact Made.breaker?_uses own here

end Frame

theorem Round.usesOnly (within : t.Within SameBreakers) (valid : BreaksValidly t.call)
    (sound : reg.Sound) {r : Round σ} (held : r.found.breakers = some reg) :
    Made.UsesOnly ⟨t.call, r⟩ reg where
  found := congrArg (·.getD .empty) held
  left := congrArg (·.getD .empty) (step_uses within valid sound held)
  takes elected p chosen policy := by
    obtain ⟨config, valid⟩ := valid p policy
    exact ⟨config, valid, (elected_of_broken within held policy valid chosen).1⟩

theorem Course.inTurn (within : t.Within SameBreakers) (valid : BreaksValidly t.call)
    {b : Budget} {last : Option (Response t.α)} {r : Round σ} {rounds : List (Round σ)}
    {o : Outcome σ (Option (Response t.α))} (course : Course t.call b last r rounds o)
    (sound : reg.Sound) (held : r.found.breakers = some reg) :
    InTurn reg (rounds.map (fun r => ⟨t.call, r⟩)) ∧
      o.session.breakers =
        some (reg.uses (Made.uses (rounds.map (fun r => ⟨t.call, r⟩)))) := by
  induction course generalizing reg with
  | @ends last r stops =>
    have own := Round.usesOnly within valid sound held
    have left := Round.step_uses within valid sound held
    have concluded := within.sameBreakers.close b last r
    refine ⟨⟨own, trivial⟩, concluded.trans ?_⟩
    rw [List.map_singleton, Made.uses_cons, Made.uses_nil, List.append_nil]
    exact left
  | @goesOn last r rounds o more rest ih =>
    have own := Round.usesOnly within valid sound held
    have left := Round.step_uses within valid sound held
    have paused := within.sameBreakers.interval b r
    obtain ⟨others, after⟩ := ih (sound.uses _) (paused.trans left)
    refine ⟨⟨own, others⟩, ?_⟩
    rw [List.map_cons, Made.uses_cons, Registry.uses_append]
    exact after

theorem Served.inTurn {turns : List (Turn σ)} {made : List (Made σ)}
    (served : Served s turns made later) (within : ∀ t ∈ turns, t.Within SameBreakers)
    (valid : ∀ t ∈ turns, BreaksValidly t.call) (sound : reg.Sound)
    (held : s.breakers = some reg) : InTurn reg made := by
  induction served generalizing reg with
  | nothing s => trivial
  | @turn s later t turns rounds made course rest ih =>
    obtain ⟨ownWithin, othersWithin⟩ := List.forall_mem_cons.1 within
    obtain ⟨ownValid, othersValid⟩ := List.forall_mem_cons.1 valid
    obtain ⟨own, after⟩ := course.inTurn ownWithin ownValid sound ((ownWithin.gap s).trans held)
    exact inTurn_append_iff.2 ⟨own, ih othersWithin othersValid (sound.uses _) after⟩

end Runs

end Governance.Call
