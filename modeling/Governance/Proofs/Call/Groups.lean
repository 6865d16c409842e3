import Governance.Proofs.Call.Uses

set_option autoImplicit false

namespace Governance.Call

variable {σ α : Type}

open Governance.Call.Flow Governance.Circuit

def KeepsFaithful (s later : Session σ) : Prop :=
  s.balancer.Faithful → later.balancer.Faithful

theorem Turn.Within.keepsFaithful {t : Turn σ} (within : t.Within KeepsFaithful) :
    Whole KeepsFaithful t.call where
  refl _ faithful := faithful
  trans first second faithful := second (first faithful)
  route := within.route
  onSuccess := within.onSuccess
  onFailure := within.onFailure
  sleep := within.sleep
  deliver := within.deliver
  balance _ _ _ faithful := Picker.elect_faithful faithful
  invokes := within.invoke
  breakers _ _ faithful := faithful

structure Turn.InGroup (service : String) (addresses : Option String → List String) (t : Turn σ) :
    Prop where
  service_eq : t.call.request.service = service
  lists : ∀ s pool, (t.call.adapter.route t.call.request s).1 = .ok pool →
    ∀ a, a ∈ pool.map Endpoint.address ↔ a ∈ addresses (ownGroup? t.call.request.group)
  breaking : BreaksValidly t.call
  breakers : t.Within SameBreakers

structure Turn.ElectsCandidates (t : Turn σ) : Prop where
  builtIn : Advice.IsBuiltIn t.call.advice
  narrows : ∀ filter ∈ t.call.invoker.routes, filter.Narrows
  balancer : t.Within KeepsFaithful

namespace Made

def group (m : Made σ) : Option String := ownGroup? m.call.request.group

def Elects (m : Made σ) (address : String) : Prop :=
  ∃ elected, (m.round.election m.call).value = .ok elected ∧ elected.endpoint.address = address

def chooses (m : Made σ) : Millis := (m.call.route.run m.round.found).session.clock

end Made

structure SharesBreakers (service : String) (addresses : Option String → List String)
    (made : List (Made σ)) : Prop where
  spares : ∀ m ∈ made, ∀ a h, m.found.get? (Registry.endpointKey service a) = some h →
    ¬ m.Elects a → m.left.breaker? h = m.found.breaker? h
  -- Making a breaker forgets those of the endpoints that are not the group's.
  stays_iff : ∀ m ∈ made, ∀ a h, m.found.get? (Registry.endpointKey service a) = some h →
    (m.left.get? (Registry.endpointKey service a) = some h ↔ (m.Makes → a ∈ addresses m.group))
  unchanged : ∀ before last between m after, made = before ++ last :: (between ++ m :: after) →
    ∀ a h, last.left.get? (Registry.endpointKey service a) = some h →
      (∀ d ∈ between, ¬ d.Elects a) → m.found.breaker? h = last.left.breaker? h
  kept_iff : ∀ before last between m after, made = before ++ last :: (between ++ m :: after) →
    ∀ a h, last.left.get? (Registry.endpointKey service a) = some h →
      (m.found.get? (Registry.endpointKey service a) = some h ↔
        ∀ d ∈ between, d.Makes → a ∈ addresses d.group)

structure ElectsOwn (service : String) (addresses : Option String → List String)
    (made : List (Made σ)) : Prop where
  own : ∀ m ∈ made, ∀ a, m.Elects a → a ∈ addresses m.group
  available : ∀ m ∈ made, m.call.limits.breaker ≠ none → ∀ a b,
    m.found.find? (Registry.endpointKey service a) = some b → m.Elects a →
      b.isAvailable m.chooses = true
  -- Nobody who tripped, until the recovery is over or a group without the endpoint makes a breaker.
  excluded : ∀ before last recent after, made = before ++ last :: (recent ++ after) → ∀ a b,
    last.left.find? (Registry.endpointKey service a) = some b →
      (∀ d ∈ recent, b.isAvailable d.chooses = false) →
        (∀ d ∈ recent, d.Makes → a ∈ addresses d.group) →
          ∀ d ∈ recent, d.call.limits.breaker ≠ none → ¬ d.Elects a

section Leads

variable {R : Session σ → Session σ → Prop} {s later : Session σ}

theorem Served.turn_of_mem {turns : List (Turn σ)} {made : List (Made σ)}
    (served : Served s turns made later) :
    ∀ m ∈ made, ∃ t ∈ turns, ∃ r, m = ⟨t.call, r⟩ := by
  induction served with
  | nothing s => simp
  | @turn s later t turns rounds made course rest ih =>
    intro m mem
    rcases List.mem_append.1 mem with own | other
    · obtain ⟨r, -, rfl⟩ := List.mem_map.1 own
      exact ⟨t, List.mem_cons_self, r, rfl⟩
    · obtain ⟨t', turn, same⟩ := ih m other
      exact ⟨t', List.mem_cons_of_mem _ turn, same⟩

theorem Served.leads {turns : List (Turn σ)} {made : List (Made σ)}
    (served : Served s turns made later) (whole : ∀ t ∈ turns, Whole R t.call)
    (gap : ∀ t ∈ turns, ∀ s, R s (t.gap s)) :
    ∀ m ∈ made, ∃ t ∈ turns, ∃ r, m = ⟨t.call, r⟩ ∧ R s r.found := by
  induction served with
  | nothing s => simp
  | @turn s later t turns rounds made course rest ih =>
    obtain ⟨ownWhole, othersWhole⟩ := List.forall_mem_cons.1 whole
    obtain ⟨ownGap, othersGap⟩ := List.forall_mem_cons.1 gap
    obtain ⟨inCourse, after⟩ := course.leads ownWhole
    intro m mem
    rcases List.mem_append.1 mem with own | other
    · obtain ⟨r, inRounds, rfl⟩ := List.mem_map.1 own
      exact ⟨t, List.mem_cons_self, r, rfl, ownWhole.trans (ownGap s) (inCourse r inRounds)⟩
    · obtain ⟨t', turn, r, same, leads⟩ := ih othersWhole othersGap m other
      exact ⟨t', List.mem_cons_of_mem _ turn, r, same,
        ownWhole.trans (ownWhole.trans (ownGap s) after) leads⟩

end Leads

section Rounds

variable {service : String} {addresses : Option String → List String} {t : Turn σ} {r : Round σ}
  {a : String}

theorem Turn.InGroup.elects (fits : t.InGroup service addresses) (chooses : t.ElectsCandidates)
    (faithful : r.found.balancer.Faithful) (elects : Made.Elects ⟨t.call, r⟩ a) :
    a ∈ addresses (ownGroup? t.call.request.group) ∧ ∃ e : Endpoint, e.address = a ∧
      isOpen (t.call.route.run r.found).session service t.call.limits.breaker e = false := by
  obtain ⟨elected, chosen, rfl⟩ := elects
  obtain ⟨pool, candidates, how⟩ := elect_of_ok chosen
  have listed := chooses.balancer.keepsFaithful.listing r.found faithful
  obtain ⟨inPool, passes⟩ := how.passes chooses.narrows chooses.builtIn listed
  rw [fits.service_eq] at passes
  exact ⟨(fits.lists _ _ how.listed _).1 (List.mem_map_of_mem inPool), _, rfl, passes⟩

theorem Turn.InGroup.available (fits : t.InGroup service addresses)
    (chooses : t.ElectsCandidates) (faithful : r.found.balancer.Faithful)
    (policy : t.call.limits.breaker ≠ none) {b : Breaker}
    (found : (Made.found ⟨t.call, r⟩).find? (Registry.endpointKey service a) = some b)
    (elects : Made.Elects ⟨t.call, r⟩ a) :
    b.isAvailable (Made.chooses ⟨t.call, r⟩) = true := by
  obtain ⟨-, e, rfl, passes⟩ := fits.elects chooses faithful elects
  obtain ⟨p, policy⟩ := Option.ne_none_iff_exists'.1 policy
  have listed : (t.call.route.run r.found).session.breakers = r.found.breakers :=
    fits.breakers.sameBreakers.listing r.found
  unfold Made.found at found
  cases held : r.found.breakers with
  | none =>
    rw [held] at found
    cases found
  | some reg =>
    rw [held, Option.getD_some] at found
    unfold isOpen at passes
    rw [listed, held, policy] at passes
    dsimp only at passes
    rw [found] at passes
    have due : b.isAvailable (t.call.route.run r.found).session.clock = true := by
      simpa using passes
    exact due

theorem Turn.InGroup.drops_iff (fits : t.InGroup service addresses) :
    Made.Drops ⟨t.call, r⟩ (Registry.endpointKey service a) ↔
      Made.Makes ⟨t.call, r⟩ ∧ a ∉ addresses (ownGroup? t.call.request.group) := by
  have live : ∀ u, r.use? t.call = some u → u.service = service ∧
      ∀ address, address ∈ u.live ↔ address ∈ addresses (ownGroup? t.call.request.group) := by
    intro u used
    obtain ⟨elected, config, chosen, rfl⟩ := Round.of_use? used
    obtain ⟨pool, candidates, how⟩ := elect_of_ok chosen
    refine ⟨fits.service_eq, fun address => ?_⟩
    rw [← fits.lists _ _ how.listed, Round.use, Round.pool, how.listed]
  constructor
  · rintro ⟨u, used, makes, address, gone, same⟩
    obtain ⟨service_eq, listed⟩ := live u used
    rw [service_eq] at same
    rw [Registry.endpointKey_inj same, ← listed]
    exact ⟨⟨u, used, makes⟩, gone⟩
  · rintro ⟨⟨u, used, makes⟩, gone⟩
    obtain ⟨service_eq, listed⟩ := live u used
    exact ⟨u, used, makes, a, mt (listed a).1 gone, by rw [service_eq]⟩

theorem Turn.InGroup.not_isAt (fits : t.InGroup service addresses)
    (elsewhere : t.call.limits.breaker ≠ none → ¬ Made.Elects ⟨t.call, r⟩ a) :
    Made.isAt (Registry.endpointKey service a) ⟨t.call, r⟩ = false := by
  rw [← Bool.not_eq_true, Made.isAt, Option.any_eq_true]
  rintro ⟨u, used, same⟩
  have broken : t.call.limits.breaker ≠ none := by
    intro unbroken
    rw [Made.use?, Round.use?_of_unbroken unbroken] at used
    cases used
  obtain ⟨elected, config, chosen, rfl⟩ := Round.of_use? used
  rw [beq_iff_eq, ← fits.service_eq] at same
  exact elsewhere broken ⟨elected, chosen, Registry.endpointKey_inj same⟩

end Rounds

section Runs

variable {service : String} {addresses : Option String → List String} {reg : Registry}
  {made : List (Made σ)} {a : String} {h : Handle}

def AllInGroups (service : String) (addresses : Option String → List String)
    (made : List (Made σ)) : Prop :=
  ∀ m ∈ made, ∃ t : Turn σ, ∃ r, m = ⟨t.call, r⟩ ∧ t.InGroup service addresses

def AllElectCandidates (service : String) (addresses : Option String → List String)
    (made : List (Made σ)) : Prop :=
  ∀ m ∈ made, ∃ t : Turn σ, ∃ r, m = ⟨t.call, r⟩ ∧ t.InGroup service addresses ∧
    t.ElectsCandidates ∧ r.found.balancer.Faithful

theorem Served.allInGroups {s later : Session σ} {turns : List (Turn σ)}
    (served : Served s turns made later) (fits : ∀ t ∈ turns, t.InGroup service addresses) :
    AllInGroups service addresses made := by
  intro m mem
  obtain ⟨t, turn, r, same⟩ := served.turn_of_mem m mem
  exact ⟨t, r, same, fits t turn⟩

theorem Served.allElectCandidates {s later : Session σ} {turns : List (Turn σ)}
    (served : Served s turns made later) (fits : ∀ t ∈ turns, t.InGroup service addresses)
    (chooses : ∀ t ∈ turns, t.ElectsCandidates) (faithful : s.balancer.Faithful) :
    AllElectCandidates service addresses made := by
  intro m mem
  obtain ⟨t, turn, r, same, leads⟩ := served.leads
    (fun t turn => (chooses t turn).balancer.keepsFaithful)
    (fun t turn => (chooses t turn).balancer.gap) m mem
  exact ⟨t, r, same, fits t turn, chooses t turn, leads faithful⟩

theorem AllInGroups.drops_iff (all : AllInGroups service addresses made) {d : Made σ}
    (mem : d ∈ made) :
    d.Drops (Registry.endpointKey service a) ↔ d.Makes ∧ a ∉ addresses d.group := by
  obtain ⟨t, r, rfl, fits⟩ := all d mem
  exact fits.drops_iff

theorem AllInGroups.not_isAt (all : AllInGroups service addresses made) {d : Made σ}
    (mem : d ∈ made) (elsewhere : d.call.limits.breaker ≠ none → ¬ d.Elects a) :
    d.isAt (Registry.endpointKey service a) = false := by
  obtain ⟨t, r, rfl, fits⟩ := all d mem
  exact fits.not_isAt elsewhere

theorem AllInGroups.get?_iff (all : AllInGroups service addresses made) (inTurn : InTurn reg made)
    (own : reg.Own (Registry.endpointKey service a) h) :
    (reg.uses (Made.uses made)).get? (Registry.endpointKey service a) = some h ↔
      reg.get? (Registry.endpointKey service a) = some h ∧
        ∀ d ∈ made, d.Makes → a ∈ addresses d.group := by
  rw [inTurn.get?_iff own]
  refine and_congr_right fun _ => forall₂_congr fun d mem => ?_
  rw [all.drops_iff mem, not_and, not_not]

theorem AllInGroups.breaker?_eq (all : AllInGroups service addresses made)
    (inTurn : InTurn reg made) (own : reg.Own (Registry.endpointKey service a) h)
    (elsewhere : ∀ d ∈ made, ¬ d.Elects a) :
    (reg.uses (Made.uses made)).breaker? h = reg.breaker? h :=
  inTurn.breaker?_eq own (fun d mem => all.not_isAt mem (fun _ => elsewhere d mem))

theorem AllElectCandidates.allInGroups (all : AllElectCandidates service addresses made) :
    AllInGroups service addresses made := by
  intro m mem
  obtain ⟨t, r, same, fits, -⟩ := all m mem
  exact ⟨t, r, same, fits⟩

theorem AllElectCandidates.own (all : AllElectCandidates service addresses made) {d : Made σ}
    (mem : d ∈ made) (elects : d.Elects a) : a ∈ addresses d.group := by
  obtain ⟨t, r, rfl, fits, chooses, faithful⟩ := all d mem
  exact (fits.elects chooses faithful elects).1

theorem AllElectCandidates.available (all : AllElectCandidates service addresses made)
    {d : Made σ} (mem : d ∈ made) (policy : d.call.limits.breaker ≠ none) {b : Breaker}
    (found : d.found.find? (Registry.endpointKey service a) = some b) (elects : d.Elects a) :
    b.isAvailable d.chooses = true := by
  obtain ⟨t, r, rfl, fits, chooses, faithful⟩ := all d mem
  exact fits.available chooses faithful policy found elects

theorem AllElectCandidates.excluded (all : AllElectCandidates service addresses made)
    (inTurn : InTurn reg made) (sound : reg.Sound) {b : Breaker}
    (found : reg.find? (Registry.endpointKey service a) = some b)
    (waits : ∀ d ∈ made, b.isAvailable d.chooses = false)
    (remains : ∀ d ∈ made, d.Makes → a ∈ addresses d.group) :
    ∀ d ∈ made, d.call.limits.breaker ≠ none → ¬ d.Elects a := by
  induction made generalizing reg with
  | nil => simp
  | cons m later ih =>
    obtain ⟨uses, rest⟩ := inTurn
    obtain ⟨ownWaits, othersWait⟩ := List.forall_mem_cons.1 waits
    obtain ⟨ownRemains, othersRemain⟩ := List.forall_mem_cons.1 remains
    have elsewhere : m.call.limits.breaker ≠ none → ¬ m.Elects a := by
      intro policy elects
      have due := all.available List.mem_cons_self policy (uses.found ▸ found) elects
      exact absurd due (by simp [ownWaits])
    have spared := all.allInGroups.not_isAt List.mem_cons_self elsewhere
    have stays : ¬ m.Drops (Registry.endpointKey service a) := by
      rw [all.allInGroups.drops_iff List.mem_cons_self, not_and, not_not]
      exact ownRemains
    obtain ⟨h, registered, breaker⟩ := Option.bind_eq_some_iff.1 found
    have next : (reg.uses m.use?.toList).find? (Registry.endpointKey service a) = some b := by
      rw [Registry.find?, (uses.get?_iff (sound.own registered)).2 ⟨registered, stays⟩,
        Option.bind_some, Made.breaker?_uses (sound.own registered) spared]
      exact breaker
    exact List.forall_mem_cons.2 ⟨elsewhere,
      ih (fun d mem => all d (List.mem_cons_of_mem _ mem)) rest (sound.uses _) next othersWait
        othersRemain⟩

theorem AllInGroups.sharesBreakers (all : AllInGroups service addresses made)
    (inTurn : InTurn reg made) (sound : reg.Sound) : SharesBreakers service addresses made := by
  constructor
  · intro m mem a h found elsewhere
    obtain ⟨reg', sound', uses⟩ := inTurn.of_mem sound mem
    rw [uses.found] at found ⊢
    rw [uses.left]
    exact Made.breaker?_uses (sound'.own found) (all.not_isAt mem (fun _ => elsewhere))
  · intro m mem a h found
    obtain ⟨reg', sound', uses⟩ := inTurn.of_mem sound mem
    rw [uses.found] at found
    rw [uses.left, uses.get?_iff (sound'.own found), all.drops_iff mem, not_and, not_not]
    exact and_iff_right found
  · rintro before last between m after rfl a h found elsewhere
    obtain ⟨leftSound, inBetween, next⟩ := inTurn.between sound
    have some_all : AllInGroups service addresses between := fun d mem => all d (by simp [mem])
    rw [next]
    exact some_all.breaker?_eq inBetween (leftSound.own found) elsewhere
  · rintro before last between m after rfl a h found
    obtain ⟨leftSound, inBetween, next⟩ := inTurn.between sound
    have some_all : AllInGroups service addresses between := fun d mem => all d (by simp [mem])
    rw [next, some_all.get?_iff inBetween (leftSound.own found)]
    exact and_iff_right found

theorem AllElectCandidates.electsOwn (all : AllElectCandidates service addresses made)
    (inTurn : InTurn reg made) (sound : reg.Sound) : ElectsOwn service addresses made := by
  constructor
  · exact fun m mem a elects => all.own mem elects
  · exact fun m mem policy a b found elects => all.available mem policy found elects
  · rintro before last recent after rfl a b found waits remains
    obtain ⟨leftSound, inTurn⟩ := inTurn.after sound
    have recently : AllElectCandidates service addresses recent :=
      fun d mem => all d (by simp [mem])
    exact recently.excluded (inTurn_append_iff.1 inTurn).1 leftSound found waits remains

end Runs

/-- Calls of a service in any groups, made one after another, never change the breaker of an
endpoint that they do not elect, and it stands for the endpoint until a call of a group without the
endpoint makes a breaker. If they elect among their candidates, an endpoint that tripped is left
alone for so long. -/
theorem groups_share_breakers {service : String} {addresses : Option String → List String}
    {s : Session σ} {reg : Registry} {turns : List (Turn σ)} (held : s.breakers = some reg)
    (sound : reg.Sound) (fits : ∀ t ∈ turns, t.InGroup service addresses) :
    (∃ made later, Served s turns made later) ∧
      ∀ made later, Served s turns made later →
        SharesBreakers service addresses made ∧
          (s.balancer.Faithful → (∀ t ∈ turns, t.ElectsCandidates) →
            ElectsOwn service addresses made) := by
  refine ⟨exists_served s turns, ?_⟩
  intro made later served
  have inTurn := served.inTurn (fun t turn => (fits t turn).breakers)
    (fun t turn => (fits t turn).breaking) sound held
  refine ⟨(served.allInGroups fits).sharesBreakers inTurn sound, ?_⟩
  intro faithful chooses
  exact (served.allElectCandidates fits chooses faithful).electsOwn inTurn sound

section TwoGroups

def greenEndpoint : Endpoint := ⟨"g", 1, .healthy, .empty⟩

def groupPool (group : Option String) : List Endpoint :=
  if group = some "green" then [greenEndpoint] else [onlyEndpoint]

def groupedService : Adapter (List (Response String)) String where
  route r s := (.ok (groupPool (ownGroup? r.group)), s)
  invoke _ _ s := (some (s.world.headD (.success "up")), { s with world := s.world.tail })
  isRetryable _ _ := true

def groupAddresses (group : Option String) : List String :=
  (groupPool group).map Endpoint.address

def groupCall (group : String) : Call (List (Response String)) String :=
  { guardedCall with
    adapter := groupedService
    request := { Request.plain "svc" none with group := some group } }

def groupTurn (group : String) (pause : Millis) : Turn (List (Response String)) where
  gap s := { s with clock := s.clock.plus pause }
  call := groupCall group

theorem groupTurn_inGroup (group : String) (pause : Millis) :
    (groupTurn group pause).InGroup "svc" groupAddresses where
  service_eq := rfl
  lists := by
    rintro s pool ⟨⟩ a
    rfl
  breaking := by
    rintro p ⟨⟩
    exact ⟨_, Config.make_eq_ok ⟨1, .ofMillis 10, 1, by decide, by decide, by decide⟩⟩
  breakers := ⟨fun _ => rfl, fun _ => rfl, fun _ _ => rfl, fun _ _ => rfl, fun _ _ _ => rfl,
    fun _ _ => rfl, fun _ _ => rfl⟩

theorem groupTurn_electsCandidates (group : String) (pause : Millis) :
    (groupTurn group pause).ElectsCandidates where
  builtIn := .inl rfl
  narrows := by
    simp [groupTurn, groupCall, guardedCall, Routing.Chain.standard, Routing.Filter.Narrows]
  balancer := ⟨fun _ => id, fun _ => id, fun _ _ => id, fun _ _ => id, fun _ _ _ => id,
    fun _ _ => id, fun _ _ => id⟩

-- The endpoint of the first group trips, and is wanted again before its recovery is over.
def groupTurns : List (Turn (List (Response String))) :=
  [groupTurn "blue" 0, groupTurn "green" 5, groupTurn "blue" 0]

theorem two_groups_share_breakers :
    beforeOutage.breakers = some .empty ∧ Registry.empty.Sound ∧ beforeOutage.balancer.Faithful ∧
      (∀ t ∈ groupTurns, t.InGroup "svc" groupAddresses) ∧
      (∀ t ∈ groupTurns, t.ElectsCandidates) ∧
      (∃ made later, Served beforeOutage groupTurns made later) ∧
      ∀ made later, Served beforeOutage groupTurns made later →
        SharesBreakers "svc" groupAddresses made ∧ ElectsOwn "svc" groupAddresses made := by
  have fits : ∀ t ∈ groupTurns, t.InGroup "svc" groupAddresses := by
    simp [groupTurns, groupTurn_inGroup]
  have chooses : ∀ t ∈ groupTurns, t.ElectsCandidates := by
    simp [groupTurns, groupTurn_electsCandidates]
  obtain ⟨runs, shares⟩ := groups_share_breakers (s := beforeOutage) rfl Registry.empty_sound fits
  refine ⟨rfl, Registry.empty_sound, trivial, fits, chooses, runs, ?_⟩
  intro made later served
  exact (shares made later served).imp_right fun owns => owns trivial chooses

def blueTripped : Session (List (Response String)) :=
  ((groupCall "blue").run.run beforeOutage).session

def greenServed : Session (List (Response String)) :=
  ((groupCall "green").run.run blueTripped).session

theorem tripped_forgotten :
    "h:1" ∉ groupAddresses (ownGroup? (some "green")) ∧
      blueTripped.breakers.map (·.snapshot.map (fun e => (e.1, e.2.state, e.2.recovery))) =
        some [("svc@h:1", .opened, 10)] ∧
      greenServed.breakers.map (·.keys.names) = some ["svc@g:1"] ∧ greenServed.clock = 0 ∧
      (((groupCall "blue").run.run greenServed).trace.filter Happening.isInvocation).length = 1 := by
  decide +kernel

end TwoGroups

end Governance.Call
