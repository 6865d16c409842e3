import Governance.Circuit.Registry
import Governance.Endpoint
import Governance.Proofs.Circuit.Textbook
import Mathlib.Logic.Function.Basic

set_option autoImplicit false

namespace Governance.Circuit

structure Visit where
  endpoint : Endpoint
  policy : BreakerPolicy
  asked : Millis
  outcome : Breaker.Outcome
  told : Millis

def Visit.address (v : Visit) : String := v.endpoint.address

structure Machine where
  policy : BreakerPolicy
  state : Textbook

namespace Machine

def new (p : BreakerPolicy) : Machine := ⟨p, .closed 0⟩

def terms (m : Machine) : Terms := .ofPolicy m.policy

def Admits (m : Machine) (now : Millis) : Prop := m.state.answer m.terms now.toNat ≠ .refused

def after (m : Machine) (v : Visit) : Machine :=
  { m with state := (m.state.ask m.terms v.asked.toNat).tell m.terms v.outcome v.told.toNat }

theorem new_admits (p : BreakerPolicy) (now : Millis) : (new p).Admits now := nofun

theorem admits_mono {m : Machine} {now later : Millis} (order : now ≤ later)
    (admits : m.Admits now) : m.Admits later :=
  Textbook.answer_mono (UInt64.le_iff_toNat_le.1 order) admits

end Machine

def machine? (visits : List Visit) (address : String) : Option Machine :=
  match visits.filter (·.address == address) with
  | [] => none
  | first :: later => some ((first :: later).foldl .after (.new first.policy))

theorem machine?_concat (visits : List Visit) (v : Visit) :
    machine? (visits ++ [v]) =
      Function.update (machine? visits) v.address
        (some (((machine? visits v.address).getD (.new v.policy)).after v)) := by
  funext address
  by_cases here : address = v.address
  · subst here
    rw [Function.update_self]
    unfold machine?
    have own : [v].filter (·.address == v.address) = [v] := by simp
    rw [List.filter_append, own]
    cases visits.filter (·.address == v.address) with
    | nil => rfl
    | cons first later => simp [List.foldl_append]
  · rw [Function.update_of_ne here]
    unfold machine?
    have elsewhere : [v].filter (·.address == address) = [] := by simp [Ne.symm here]
    rw [List.filter_append, elsewhere, List.append_nil]

namespace Breaker

structure Plays (b : Breaker) (m : Machine) : Prop where
  valid : Config.ofPolicy m.policy = .ok b.config
  idle : b.Idle
  view_eq : b.view = m.state

theorem new_plays (key : String) {p : BreakerPolicy} {config : Config}
    (valid : Config.ofPolicy p = .ok config) : (new key config).Plays (.new p) :=
  ⟨valid, new_idle key config, rfl⟩

namespace Plays

variable {b : Breaker} {m : Machine}

theorem answer_eq (plays : b.Plays m) (now : Millis) :
    (b.tryAcquire now).1 = m.state.answer m.terms now.toNat := by
  rw [← plays.view_eq]
  exact (b.tryAcquire_admits now).answer_eq plays.idle (goesBy_of_ofPolicy plays.valid)

theorem admits_iff (plays : b.Plays m) (now : Millis) :
    m.Admits now ↔ (b.tryAcquire now).1 ≠ .refused := by
  rw [plays.answer_eq]
  rfl

theorem available_iff (plays : b.Plays m) (now : Millis) :
    b.isAvailable now = true ↔ m.Admits now := by
  rw [plays.admits_iff]
  exact isAvailable_iff (fun _ _ => plays.idle.hasSlot)

theorem visited (plays : b.Plays m) (v : Visit) (passes : m.Admits v.asked) :
    ((b.tryAcquire v.asked).2.settle ((b.tryAcquire v.asked).1 == .probe) v.outcome v.told).Plays
      (m.after v) := by
  have goesBy : b.GoesBy m.terms := goesBy_of_ofPolicy plays.valid
  have admits := b.tryAcquire_admits v.asked
  have lent := admits.lent plays.idle ((plays.admits_iff v.asked).1 passes)
  refine ⟨?_, lent.settle_idle _ _, ?_⟩
  · rw [settle_config, admits.config_eq]
    exact plays.valid
  · rw [lent.settle_view (goesBy.of_config_eq admits.config_eq), admits.view_eq goesBy,
      plays.view_eq]
    rfl

end Plays

end Breaker

namespace Registry

theorem addressIn?_endpointKey (service address : String) :
    addressIn? service (endpointKey service address) = some address := by
  simp [addressIn?, endpointKey, List.isPrefixOf_iff_prefix]

theorem endpointKey_inj {service a other : String}
    (same : endpointKey service a = endpointKey service other) : a = other := by
  have addresses := addressIn?_endpointKey service a
  rw [same, addressIn?_endpointKey] at addresses
  exact (Option.some.inj addresses).symm

-- At the addresses of a service the registry holds the breakers that the machines are, each under
-- its own handle, and no other.
structure Tracks (r : Registry) (service : String) (addresses : List String)
    (machines : String → Option Machine) : Prop where
  plays : ∀ a m, machines a = some m →
    ∃ h b, r.get? (endpointKey service a) = some h ∧ r.breaker? h = some b ∧ b.Plays m
  absent : ∀ a, machines a = none → r.get? (endpointKey service a) = none
  apart : ∀ a other h, r.get? (endpointKey service a) = some h →
    r.get? (endpointKey service other) = some h → a = other
  known : ∀ a m, machines a = some m → a ∈ addresses

theorem empty_tracks (service : String) (addresses : List String) :
    empty.Tracks service addresses (fun _ => none) :=
  ⟨nofun, fun _ _ => rfl, nofun, nofun⟩

theorem update_eq_some_iff {machines : String → Option Machine} {a other : String}
    {m m' : Machine} :
    Function.update machines a (some m) other = some m' ↔
      (other = a ∧ m = m') ∨ (other ≠ a ∧ machines other = some m') := by
  by_cases here : other = a
  · subst here
    simp
  · simp [here]

theorem update_eq_none_iff {machines : String → Option Machine} {a other : String} {m : Machine} :
    Function.update machines a (some m) other = none ↔ other ≠ a ∧ machines other = none := by
  by_cases here : other = a
  · subst here
    simp
  · simp [here]

theorem get?_prune (r : Registry) (service a : String) (live : List String) :
    (r.prune service live).get? (endpointKey service a) =
      if a ∈ live then r.get? (endpointKey service a) else none := by
  simp [get?, prune, Table.get?_retain, addressIn?_endpointKey]

def grow (r : Registry) (key : String) (config : Config) : Registry :=
  ⟨r.breakers ++ [.new key config], r.keys.insert key r.breakers.length⟩

section Obtain

variable {r : Registry} {key : String} {p : BreakerPolicy}

theorem obtain_of_get? {h : Handle} (found : r.get? key = some h) :
    r.obtain key p = .ok (h, r) := by
  rw [obtain, found]

theorem obtain_of_valid {config : Config} (missing : r.get? key = none)
    (valid : Config.ofPolicy p = .ok config) :
    r.obtain key p = .ok (r.breakers.length, r.grow key config) := by
  rw [obtain, missing, valid]
  rfl

theorem obtain_of_invalid {e : Error} (missing : r.get? key = none)
    (invalid : Config.ofPolicy p = .error e) : r.obtain key p = .error e := by
  rw [obtain, missing, invalid]

theorem get?_grow (r : Registry) (key other : String) (config : Config) :
    (r.grow key config).get? other =
      if other = key then some r.breakers.length else r.get? other :=
  Table.get?_insert _ _ _ _

end Obtain

namespace Tracks

variable {r : Registry} {service : String} {addresses : List String}
  {machines : String → Option Machine} {a : String} {h : Handle}

theorem machine_of_get? (tracks : r.Tracks service addresses machines)
    (found : r.get? (endpointKey service a) = some h) :
    ∃ m b, machines a = some m ∧ r.breaker? h = some b ∧ b.Plays m := by
  cases machine : machines a with
  | none =>
    rw [tracks.absent a machine] at found
    cases found
  | some m =>
    obtain ⟨own, b, get, breaker, plays⟩ := tracks.plays a m machine
    rw [found] at get
    cases get
    exact ⟨m, b, rfl, breaker, plays⟩

theorem handle_lt (tracks : r.Tracks service addresses machines)
    (found : r.get? (endpointKey service a) = some h) : h < r.breakers.length := by
  obtain ⟨-, b, -, breaker, -⟩ := tracks.machine_of_get? found
  exact (List.getElem?_eq_some_iff.1 breaker).1

theorem put (tracks : r.Tracks service addresses machines)
    (found : r.get? (endpointKey service a) = some h) {b : Breaker} {m : Machine}
    (plays : b.Plays m) :
    (r.put h b).Tracks service addresses (Function.update machines a (some m)) where
  plays other m' machine := by
    rcases update_eq_some_iff.1 machine with ⟨rfl, rfl⟩ | ⟨elsewhere, machine⟩
    · exact ⟨h, b, found, by simp [breaker?, Registry.put, tracks.handle_lt found], plays⟩
    · obtain ⟨own, b', get, breaker, plays'⟩ := tracks.plays other m' machine
      have differ : h ≠ own := fun same => elsewhere (tracks.apart other a own get (same ▸ found))
      exact ⟨own, b', get, by simpa [breaker?, Registry.put, differ] using breaker, plays'⟩
  absent other none := tracks.absent other (update_eq_none_iff.1 none).2
  apart := tracks.apart
  known other m' machine := by
    rcases update_eq_some_iff.1 machine with ⟨rfl, rfl⟩ | ⟨-, machine⟩
    · obtain ⟨old, -, machine, -⟩ := tracks.machine_of_get? found
      exact tracks.known other old machine
    · exact tracks.known other m' machine

theorem obtain_new (tracks : r.Tracks service addresses machines) (isNew : machines a = none)
    (listed : a ∈ addresses) {p : BreakerPolicy} {config : Config}
    (valid : Config.ofPolicy p = .ok config) :
    ∃ h grown, r.obtain (endpointKey service a) p = .ok (h, grown) ∧
      grown.get? (endpointKey service a) = some h ∧
      grown.Tracks service addresses (Function.update machines a (some (.new p))) := by
  let key := endpointKey service a
  have get (other : String) : (r.grow key config).get? (endpointKey service other) =
      if other = a then some r.breakers.length else r.get? (endpointKey service other) := by
    have sameKey : endpointKey service other = key ↔ other = a :=
      ⟨endpointKey_inj, fun same => same ▸ rfl⟩
    simp only [get?_grow, sameKey]
  refine ⟨r.breakers.length, r.grow key config, obtain_of_valid (tracks.absent a isNew) valid,
    by rw [get, if_pos rfl], ?_, ?_, ?_, ?_⟩
  · intro other m machine
    rcases update_eq_some_iff.1 machine with ⟨rfl, rfl⟩ | ⟨elsewhere, machine⟩
    · exact ⟨_, _, by rw [get, if_pos rfl], List.getElem?_concat_length,
        Breaker.new_plays key valid⟩
    · obtain ⟨own, b, found, breaker, plays⟩ := tracks.plays other m machine
      refine ⟨own, b, by rw [get, if_neg elsewhere, found], ?_, plays⟩
      rw [breaker?, grow, List.getElem?_append_left (tracks.handle_lt found)]
      exact breaker
  · intro other none
    obtain ⟨elsewhere, none⟩ := update_eq_none_iff.1 none
    rw [get, if_neg elsewhere, tracks.absent other none]
  · intro first second h one two
    rw [get] at one two
    split at one <;> split at two
    · subst_vars
      rfl
    · cases one
      exact absurd (tracks.handle_lt two) (Nat.lt_irrefl _)
    · cases two
      exact absurd (tracks.handle_lt one) (Nat.lt_irrefl _)
    · exact tracks.apart first second h one two
  · intro other m machine
    rcases update_eq_some_iff.1 machine with ⟨rfl, rfl⟩ | ⟨-, machine⟩
    · exact listed
    · exact tracks.known other m machine

theorem prune (tracks : r.Tracks service addresses machines) {live : List String}
    (alive : ∀ a ∈ addresses, a ∈ live) :
    (r.prune service live).Tracks service addresses machines where
  plays a m machine := by
    rw [get?_prune, if_pos (alive a (tracks.known a m machine))]
    exact tracks.plays a m machine
  absent a none := by rw [get?_prune, tracks.absent a none, ite_self]
  apart a other h one two := by
    rw [get?_prune, Option.ite_none_right_eq_some] at one two
    exact tracks.apart a other h one.2 two.2
  known := tracks.known

end Tracks

theorem acquire_of_passes {r : Registry} {h : Handle} {b : Breaker} {now : Millis}
    (breaker : r.breaker? h = some b) (passes : (b.tryAcquire now).1 ≠ .refused) :
    (r.acquire h now).permit = some ⟨h, (b.tryAcquire now).1 == .probe⟩ ∧
      (r.acquire h now).registry = r.put h (b.tryAcquire now).2 := by
  cases admission : (b.tryAcquire now).1 with
  | refused => exact absurd admission passes
  | call | probe => simp [acquire, breaker, admission]

theorem settle_put {r : Registry} {h : Handle} {b : Breaker} (breaker : r.breaker? h = some b)
    (after : Breaker) (probe : Bool) (outcome : Breaker.Outcome) (now : Millis) :
    ((r.put h after).settle ⟨h, probe⟩ outcome now).1 =
      r.put h (after.settle probe outcome now) := by
  have bound : h < r.breakers.length := (List.getElem?_eq_some_iff.1 breaker).1
  have held : (r.put h after).breaker? h = some after := by simp [breaker?, put, bound]
  rw [settle, held]
  simp [put]

/-- A visit to an address that is known: a permit is given, and once it is given back with the
outcome the registry is what the machines are after the visit. -/
theorem Tracks.visited {r : Registry} {service : String} {addresses : List String}
    {machines : String → Option Machine} {m : Machine} {h : Handle}
    (tracks : r.Tracks service addresses machines) (v : Visit)
    (machine : machines v.address = some m)
    (found : r.get? (endpointKey service v.address) = some h) (passes : m.Admits v.asked) :
    ∃ permit, (r.acquire h v.asked).permit = some permit ∧
      ((r.acquire h v.asked).registry.settle permit v.outcome v.told).1.Tracks service addresses
        (Function.update machines v.address (some (m.after v))) := by
  obtain ⟨own, b, same, breaker, plays⟩ := tracks.machine_of_get? found
  rw [machine] at same
  cases same
  obtain ⟨permit, acquired⟩ := acquire_of_passes breaker ((plays.admits_iff v.asked).1 passes)
  refine ⟨_, permit, ?_⟩
  rw [acquired, settle_put breaker]
  exact tracks.put found (plays.visited v passes)

end Registry

end Governance.Circuit
