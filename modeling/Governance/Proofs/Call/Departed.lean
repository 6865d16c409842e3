import Governance.Proofs.Call.Uses

set_option autoImplicit false

namespace Governance.Call

open Governance.Call.Flow Governance.Circuit

variable {σ α : Type}

structure Creation where
  service : String
  address : String
  handle : Handle

def Creation.key (own : Creation) : String := Registry.endpointKey own.service own.address

namespace Made

def elected (m : Made σ) : Session σ := (m.round.election m.call).session

def pool (m : Made σ) : List Endpoint := m.round.pool m.call

-- Nothing was under the key of whoever is elected, and the election ends with a breaker for it.
def creation? (m : Made σ) : Option Creation :=
  match (m.round.election m.call).value with
  | .error _ => none
  | .ok elected =>
    let service := m.call.request.service
    let address := elected.endpoint.address
    match m.found.get? (Registry.endpointKey service address), elected.breaker with
    | none, some h => some ⟨service, address, h⟩
    | _, _ => none

def createsFor (service : String) (m : Made σ) : Bool := m.creation?.any (·.service == service)

-- The pool that was listed by the latest election that made a breaker for the service.
def latestPool (service : String) (made : List (Made σ)) : List Endpoint :=
  ((made.reverse.find? (createsFor service)).map pool).getD []

def Created (made : List (Made σ)) (own : Creation) : Prop :=
  ∃ m ∈ made, m.creation? = some own

end Made

-- The registry holds what elections have made, and of that only what is in the latest pools.
structure Listed (made : List (Made σ)) (r : Registry) : Prop where
  created : ∀ key h, r.get? key = some h → ∃ own, Made.Created made own ∧ own.handle = h
  listed : ∀ own, Made.Created made own → ∀ key, r.get? key = some own.handle →
    key = own.key ∧ own.address ∈ (Made.latestPool own.service made).map Endpoint.address

def Made.keysOf (made : List (Made σ)) (r : Registry) (service : String) : Set String :=
  {key | ∃ own, Made.Created made own ∧ own.service = service ∧ r.get? key = some own.handle}

section Latest

variable {past : List (Made σ)} {m : Made σ} {own new : Creation} {service : String}

theorem Made.created_concat_of_none (none : m.creation? = none) :
    Made.Created (past ++ [m]) own ↔ Made.Created past own := by
  simp [Made.Created, none]

theorem Made.created_concat_of_some (creates : m.creation? = some new) :
    Made.Created (past ++ [m]) own ↔ Made.Created past own ∨ own = new := by
  simp [Made.Created, or_and_right, exists_or, creates, eq_comm]

theorem Made.latestPool_concat (past : List (Made σ)) (m : Made σ) (service : String) :
    Made.latestPool service (past ++ [m]) =
      if m.createsFor service then m.pool else Made.latestPool service past := by
  unfold Made.latestPool
  rw [List.reverse_append, List.reverse_singleton, List.singleton_append, List.find?_cons]
  cases m.createsFor service <;> rfl

theorem Made.latestPool_concat_of_none (none : m.creation? = none) :
    Made.latestPool service (past ++ [m]) = Made.latestPool service past := by
  simp [Made.latestPool_concat, Made.createsFor, none]

theorem Made.latestPool_concat_of_some (creates : m.creation? = some new) :
    Made.latestPool service (past ++ [m]) =
      if new.service = service then m.pool else Made.latestPool service past := by
  simp [Made.latestPool_concat, Made.createsFor, creates]

end Latest

-- What holds of the registry at any time after the attempts. A new breaker gets a number of its own
-- because all numbers that were given are below the length of the list.
structure Tidy (made : List (Made σ)) (r : Registry) : Prop extends Listed made r where
  known : ∀ own, Made.Created made own → own.handle < r.breakers.length

section Tidy

variable {past : List (Made σ)} {r : Registry} {m : Made σ}

theorem Made.not_created_nil (own : Creation) : ¬ Made.Created ([] : List (Made σ)) own := by
  simp [Made.Created]

theorem empty_tidy : Tidy ([] : List (Made σ)) .empty where
  created key h held := by cases held
  listed own created := absurd created (Made.not_created_nil own)
  known own created := absurd created (Made.not_created_nil own)

theorem Tidy.put (tidy : Tidy past r) (h : Handle) (b : Breaker) : Tidy past (r.put h b) where
  known own created := by
    rw [Registry.put, List.length_set]
    exact tidy.known own created
  created := tidy.created
  listed := tidy.listed

theorem Listed.few (listed : Listed past r) (service : String) :
    (Made.keysOf past r service).encard ≤ (Made.latestPool service past).length := by
  let keys := (Made.latestPool service past).map
    (fun e => Registry.endpointKey service e.address)
  have among : Made.keysOf past r service ⊆ (keys.toFinset : Set String) := by
    rintro key ⟨own, created, rfl, held⟩
    obtain ⟨rfl, mem⟩ := listed.listed own created key held
    obtain ⟨e, mem, address⟩ := List.mem_map.1 mem
    rw [List.coe_toFinset]
    exact List.mem_map.2 ⟨e, mem, congrArg (Registry.endpointKey own.service) address⟩
  have size : keys.toFinset.card ≤ (Made.latestPool service past).length :=
    (List.toFinset_card_le keys).trans_eq (List.length_map _)
  calc (Made.keysOf past r service).encard
      ≤ (keys.toFinset : Set String).encard := Set.encard_le_encard among
    _ = keys.toFinset.card := Set.encard_coe_eq_coe_finsetCard _
    _ ≤ (Made.latestPool service past).length := by exact_mod_cast size

theorem Tidy.acquire (tidy : Tidy past r) (h : Handle) (now : Millis) :
    Tidy past (r.acquire h now).registry := by
  unfold Registry.acquire
  split
  · exact tidy
  · exact tidy.put _ _

theorem Tidy.settle (tidy : Tidy past r) (permit : Permit) (outcome : Breaker.Outcome)
    (now : Millis) : Tidy past (r.settle permit outcome now).1 := by
  unfold Registry.settle
  split
  · exact tidy
  · exact tidy.put _ _

theorem Tidy.concat_of_none (tidy : Tidy past r) (none : m.creation? = none) :
    Tidy (past ++ [m]) r where
  known own created := tidy.known own ((Made.created_concat_of_none none).1 created)
  created key h held := by
    obtain ⟨own, created, same⟩ := tidy.created key h held
    exact ⟨own, (Made.created_concat_of_none none).2 created, same⟩
  listed own created := by
    rw [Made.latestPool_concat_of_none none]
    exact tidy.listed own ((Made.created_concat_of_none none).1 created)

section Makes

variable {u : Use}

theorem Tidy.concat_of_makes (tidy : Tidy past r) (makes : r.Makes u)
    (live : u.live = m.pool.map Endpoint.address)
    (creates : m.creation? = some ⟨u.service, u.address, r.breakers.length⟩) :
    Tidy (past ++ [m]) (r.provide u).2 where
  known own created := by
    rw [Registry.length_provide_of_makes makes]
    obtain old | rfl := (Made.created_concat_of_some creates).1 created
    · exact Nat.lt_succ_of_lt (tidy.known own old)
    · exact Nat.lt_succ_self _
  created key h held := by
    simp only [Made.created_concat_of_some creates]
    obtain ⟨-, ⟨-, rfl⟩ | before⟩ := Registry.of_get?_provide makes held
    · exact ⟨_, .inr rfl, rfl⟩
    · obtain ⟨own, old, same⟩ := tidy.created key h before
      exact ⟨own, .inl old, same⟩
  listed own created key held := by
    obtain ⟨alive, new | before⟩ := Registry.of_get?_provide makes held
    · obtain ⟨rfl, same⟩ := new
      obtain old | rfl := (Made.created_concat_of_some creates).1 created
      · exact absurd same (Nat.ne_of_lt (tidy.known own old))
      · rw [Made.latestPool_concat_of_some creates, if_pos rfl, ← live]
        exact ⟨rfl, alive u.address rfl⟩
    -- The number was in use before, so the breaker is none that was made just now.
    · have old : Made.Created past own := by
        obtain ⟨other, old, same⟩ := tidy.created key _ before
        obtain old' | rfl := (Made.created_concat_of_some creates).1 created
        · exact old'
        · exact absurd same (Nat.ne_of_lt (tidy.known other old))
      obtain ⟨rfl, listed⟩ := tidy.listed own old key before
      rw [Made.latestPool_concat_of_some creates]
      split
      · rename_i same
        rw [← live]
        exact ⟨rfl, alive own.address (congrArg (Registry.endpointKey · own.address) same.symm)⟩
      · exact ⟨rfl, listed⟩

end Makes

end Tidy

section Election

variable {t : Turn σ} {r : Round σ} {reg : Registry} {p : BreakerPolicy} {elected : Elected}

theorem breakerFor_of_invalid {c : Call σ α} {s : Session σ} {error : Circuit.Error}
    (held : s.breakers = some reg) (policy : c.limits.breaker = some p)
    (invalid : Config.ofPolicy p = .error error) (e : Endpoint) (pool : List Endpoint) :
    ((c.breakerFor e pool).run s).value =
        reg.get? (Registry.endpointKey c.request.service e.address) ∧
      ((c.breakerFor e pool).run s).session = s := by
  unfold breakerFor
  rw [run_session_bind, held, policy]
  dsimp only
  cases found : reg.get? (Registry.endpointKey c.request.service e.address) with
  | some h => exact ⟨rfl, rfl⟩
  | none =>
    unfold register
    rw [Registry.obtain_of_invalid found invalid]
    exact ⟨rfl, rfl⟩

theorem Round.elected_of_invalid (within : t.Within SameBreakers)
    (held : r.found.breakers = some reg) (policy : t.call.limits.breaker = some p)
    {error : Circuit.Error} (invalid : Config.ofPolicy p = .error error)
    (chosen : (r.election t.call).value = .ok elected) :
    elected.breaker =
        reg.get? (Registry.endpointKey t.call.request.service elected.endpoint.address) ∧
      (r.election t.call).session.breakers = some reg := by
  obtain ⟨pool, candidates, how⟩ := elect_of_ok chosen
  have same := (picked_breakers within candidates).trans held
  obtain ⟨value, session⟩ := breakerFor_of_invalid same policy invalid elected.endpoint pool
  rw [election, ← how.left, ← how.breaker, value, session]
  exact ⟨rfl, same⟩

namespace Made

variable {c : Call σ α} {h : Handle}

theorem creation?_of_unelected {e : GovernanceError} (unelected : (r.election c).value = .error e) :
    creation? ⟨c, r⟩ = none := by
  unfold creation?
  rw [unelected]

theorem creation?_of_kept (held : r.found.breakers = some reg)
    (chosen : (r.election c).value = .ok elected)
    (kept : elected.breaker = none ∨ elected.breaker =
      reg.get? (Registry.endpointKey c.request.service elected.endpoint.address)) :
    creation? ⟨c, r⟩ = none := by
  have found : Made.found ⟨c, r⟩ = reg := congrArg (·.getD .empty) held
  unfold creation?
  rw [chosen]
  dsimp only
  rw [found]
  obtain none | same := kept
  · rw [none]
    cases reg.get? (Registry.endpointKey c.request.service elected.endpoint.address) <;> rfl
  · rw [same]
    cases reg.get? (Registry.endpointKey c.request.service elected.endpoint.address) <;> rfl

theorem creation?_of_missing (held : r.found.breakers = some reg)
    (chosen : (r.election c).value = .ok elected)
    (missing : reg.get? (Registry.endpointKey c.request.service elected.endpoint.address) = none)
    (breaker : elected.breaker = some h) :
    creation? ⟨c, r⟩ = some ⟨c.request.service, elected.endpoint.address, h⟩ := by
  have found : Made.found ⟨c, r⟩ = reg := congrArg (·.getD .empty) held
  unfold creation?
  rw [chosen]
  dsimp only
  rw [found, missing, breaker]

end Made

theorem Round.creates_or_leaves (within : t.Within SameBreakers)
    (held : r.found.breakers = some reg) :
    (Made.creation? ⟨t.call, r⟩ = none ∧ (r.election t.call).session.breakers = some reg) ∨
      ∃ u : Use, reg.Makes u ∧ u.live = (r.pool t.call).map Endpoint.address ∧
        Made.creation? ⟨t.call, r⟩ = some ⟨u.service, u.address, reg.breakers.length⟩ ∧
        (r.election t.call).session.breakers = some (reg.provide u).2 := by
  cases chosen : (r.election t.call).value with
  | error e =>
    have same := within.sameBreakers.elect_of_error chosen
    exact .inl ⟨Made.creation?_of_unelected chosen, same.trans held⟩
  | ok elected =>
    cases policy : t.call.limits.breaker with
    | none =>
      obtain ⟨unbroken, same⟩ := elected_of_unbroken within policy chosen
      exact .inl ⟨Made.creation?_of_kept held chosen (.inl unbroken), same.trans held⟩
    | some p =>
      cases valid : Config.ofPolicy p with
      | error error =>
        obtain ⟨breaker, same⟩ := elected_of_invalid within held policy valid chosen
        exact .inl ⟨Made.creation?_of_kept held chosen (.inr breaker), same⟩
      | ok config =>
        obtain ⟨breaker, provided⟩ := elected_of_broken within held policy valid chosen
        by_cases makes : reg.Makes (r.use t.call config elected)
        · rw [Registry.provide_of_makes makes] at breaker
          have creates := Made.creation?_of_missing held chosen makes breaker
          exact .inr ⟨r.use t.call config elected, makes, rfl, creates, provided⟩
        · obtain ⟨h, found⟩ := Option.ne_none_iff_exists'.1 makes
          rw [Registry.provide_of_get? found] at breaker provided
          have kept := Made.creation?_of_kept held chosen (.inr (breaker.trans found.symm))
          exact .inl ⟨kept, provided⟩

end Election

section Runs

variable {t : Turn σ} {s later : Session σ} {past : List (Made σ)}

def Session.IsTidy (past : List (Made σ)) (s : Session σ) : Prop :=
  ∃ r, s.breakers = some r ∧ Tidy past r

theorem Session.IsTidy.same (tidy : s.IsTidy past) (same : SameBreakers s later) :
    later.IsTidy past := by
  obtain ⟨r, held, tidy⟩ := tidy
  exact ⟨r, same.trans held, tidy⟩

theorem acquire_breakers {r : Registry} (held : s.breakers = some r) (h : Handle) :
    ((acquire (some h)).run s).session.breakers = some (r.acquire h s.clock).registry := by
  unfold acquire
  rw [run_session_bind, held]
  dsimp only
  cases breaker : r.breaker? h with
  | none =>
    have same : r.acquire h s.clock = ⟨none, r, []⟩ := by rw [Registry.acquire, breaker]
    rw [same]
    exact held
  | some b => cases (r.acquire h s.clock).permit <;> rfl

theorem acquire_tidy (past : List (Made σ)) (breaker : Option Handle) :
    Leads (fun s later => s.IsTidy past → later.IsTidy past) (acquire breaker : Flow σ _) := by
  rintro s ⟨r, held, tidy⟩
  cases breaker with
  | none =>
    rw [acquire_none]
    exact ⟨r, held, tidy⟩
  | some h => exact ⟨_, acquire_breakers held h, tidy.acquire h s.clock⟩

theorem settle_tidy (past : List (Made σ)) (permit : Option Permit) (outcome : Breaker.Outcome) :
    Leads (fun s later => s.IsTidy past → later.IsTidy past) (settle permit outcome : Flow σ _) := by
  rintro s ⟨r, held, tidy⟩
  cases permit with
  | none =>
    rw [settle_none]
    exact ⟨r, held, tidy⟩
  | some permit =>
    rw [settle_run held]
    exact ⟨_, rfl, tidy.settle permit outcome s.clock⟩

theorem Turn.Within.tidyParts (within : t.Within SameBreakers) (past : List (Made σ)) :
    Parts (fun s later => s.IsTidy past → later.IsTidy past) t.call where
  refl _ tidy := tidy
  trans first second tidy := second (first tidy)
  route s tidy := tidy.same (within.route s)
  onSuccess e s tidy := tidy.same (within.onSuccess e s)
  onFailure e error s tidy := tidy.same (within.onFailure e error s)
  sleep d s tidy := tidy.same (within.sleep d s)
  deliver event s tidy := tidy.same (within.deliver event s)
  balance _ _ _ tidy := tidy

theorem Round.tidies {r : Round σ} (within : t.Within SameBreakers)
    (tidy : r.found.IsTidy past) :
    (r.election t.call).session.IsTidy (past ++ [⟨t.call, r⟩]) ∧
      (r.outcome t.call).session.IsTidy (past ++ [⟨t.call, r⟩]) := by
  obtain ⟨reg, held, tidy⟩ := tidy
  have elected : (r.election t.call).session.IsTidy (past ++ [⟨t.call, r⟩]) := by
    obtain ⟨none, same⟩ | ⟨u, makes, live, creates, provided⟩ := creates_or_leaves within held
    · exact ⟨reg, same, tidy.concat_of_none none⟩
    · exact ⟨_, provided, tidy.concat_of_makes makes live creates⟩
  exact ⟨elected, (within.tidyParts _).afterElection
    (fun e s tidy => tidy.same (within.invoke e s)) (acquire_tidy _) (settle_tidy _) r elected⟩

def AllTidy (past : List (Made σ)) : List (Made σ) → Prop
  | [] => True
  | m :: later => m.elected.IsTidy (past ++ [m]) ∧ AllTidy (past ++ [m]) later

theorem allTidy_append {first second : List (Made σ)} (left : AllTidy past first)
    (right : AllTidy (past ++ first) second) : AllTidy past (first ++ second) := by
  induction first generalizing past with
  | nil => simpa using right
  | cons m rest ih =>
    refine ⟨left.1, ih left.2 ?_⟩
    simpa using right

theorem AllTidy.of_split {before after : List (Made σ)} {m : Made σ}
    (all : AllTidy past (before ++ m :: after)) : m.elected.IsTidy (past ++ before ++ [m]) := by
  induction before generalizing past with
  | nil => simpa using all.1
  | cons first rest ih => simpa using ih all.2

theorem Course.tidies (within : t.Within SameBreakers) {b : Budget}
    {last : Option (Response t.α)} {r : Round σ} {rounds : List (Round σ)}
    {o : Outcome σ (Option (Response t.α))} (course : Course t.call b last r rounds o)
    (tidy : r.found.IsTidy past) :
    AllTidy past (rounds.map (fun r => ⟨t.call, r⟩)) ∧
      o.session.IsTidy (past ++ rounds.map (fun r => ⟨t.call, r⟩)) := by
  induction course generalizing past with
  | @ends last r stops =>
    obtain ⟨own, left⟩ := Round.tidies within tidy
    exact ⟨⟨own, trivial⟩, (within.tidyParts _).close b last r left⟩
  | @goesOn last r rounds o more rest ih =>
    obtain ⟨own, left⟩ := Round.tidies within tidy
    obtain ⟨others, after⟩ := ih ((within.tidyParts _).interval b r left)
    refine ⟨⟨own, others⟩, ?_⟩
    rw [List.append_assoc] at after
    exact after

theorem Served.tidies {turns : List (Turn σ)} {made : List (Made σ)}
    (served : Served s turns made later) (within : ∀ t ∈ turns, t.Within SameBreakers)
    (tidy : s.IsTidy past) : AllTidy past made := by
  induction served generalizing past with
  | nothing s => trivial
  | @turn s later t turns rounds made course rest ih =>
    obtain ⟨own, others⟩ := List.forall_mem_cons.1 within
    obtain ⟨first, after⟩ := course.tidies own (tidy.same (own.gap s))
    exact allTidy_append first (ih others after)

end Runs

/-- Breakers do not leak: after every election, whatever was in the pools, the breakers of a service
are for addresses in the latest pool for which one was made, and are no more than there are
endpoints in it. -/
theorem registered_in_latest_pool {s : Session σ} {turns : List (Turn σ)}
    (untouched : s.breakers = some .empty) (within : ∀ t ∈ turns, t.Within SameBreakers) :
    (∃ made later, Served s turns made later) ∧
      ∀ made later, Served s turns made later → ∀ before m after, made = before ++ m :: after →
        ∃ r, m.elected.breakers = some r ∧ Listed (before ++ [m]) r ∧
          ∀ service, (Made.keysOf (before ++ [m]) r service).encard ≤
            (Made.latestPool service (before ++ [m])).length := by
  refine ⟨exists_served s turns, ?_⟩
  rintro _ later served before m after rfl
  have start : s.IsTidy [] := ⟨.empty, untouched, empty_tidy⟩
  obtain ⟨r, held, tidy⟩ := (served.tidies within start).of_split
  exact ⟨r, held, tidy.toListed, tidy.few⟩

section Rollout

def node (host : String) : Endpoint := ⟨host, 1, .healthy, .empty⟩

def movingService : Adapter (List (List Endpoint)) String where
  route _ s := (.ok (s.world.headD []), { s with world := s.world.tail })
  invoke _ _ s := (some (.success "up"), s)

def movingTurn : Turn (List (List Endpoint)) where
  gap s := s
  call := ⟨⟨.nowhere, .standard, .degrade, fun _ s => s, fun _ s => (s, [])⟩, movingService,
    .plain "svc" none, ⟨none, none, some brokenByOne⟩, none⟩

-- Of the first two nodes one leaves and another one comes.
def beforeRollout : Session (List (List Endpoint)) :=
  ⟨0, .standard, some .empty, [[node "a", node "b"], [node "a", node "b"], [node "c", node "b"]]⟩

theorem movingTurn_within : movingTurn.Within SameBreakers :=
  ⟨fun _ => rfl, fun _ => rfl, fun _ _ => rfl, fun _ _ => rfl, fun _ _ _ => rfl, fun _ _ => rfl,
    fun _ _ => rfl⟩

theorem rollout_in_latest_pool :
    beforeRollout.breakers = some .empty ∧
      (∀ t ∈ List.replicate 3 movingTurn, t.Within SameBreakers) ∧
      (∃ made later, Served beforeRollout (List.replicate 3 movingTurn) made later) ∧
      ∀ made later, Served beforeRollout (List.replicate 3 movingTurn) made later →
        ∀ before m after, made = before ++ m :: after →
          ∃ r, m.elected.breakers = some r ∧ Listed (before ++ [m]) r ∧
            ∀ service, (Made.keysOf (before ++ [m]) r service).encard ≤
              (Made.latestPool service (before ++ [m])).length := by
  have within : ∀ t ∈ List.replicate 3 movingTurn, t.Within SameBreakers := by
    intro t mem
    rw [List.eq_of_mem_replicate mem]
    exact movingTurn_within
  exact ⟨rfl, within, registered_in_latest_pool rfl within⟩

example :
    let run := fun s : Session (List (List Endpoint)) => (movingTurn.call.run.run s).session
    let keys := fun s : Session (List (List Endpoint)) => (s.breakers.getD .empty).keys.names
    keys (run (run beforeRollout)) = ["svc@a:1", "svc@b:1"] ∧
      keys (run (run (run beforeRollout))) = ["svc@b:1", "svc@c:1"] := by
  decide +kernel

end Rollout

end Governance.Call
