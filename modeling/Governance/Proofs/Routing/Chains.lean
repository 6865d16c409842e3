import Governance.Proofs.Routing.Preference

set_option autoImplicit false

namespace Governance.Routing

namespace Filter

def accepts : Filter → Endpoint → Bool
  | .health => Endpoint.isAccessible
  | _ => fun _ => true

-- What a built-in filter ranks by. Of unit and cell the unit comes first; lanes and zones have one
-- rank each, and health has none.
def rank (c : Context) : Filter → Endpoint → Nat ×ₗ Nat
  | .live => fun e => toLex ((c.isInUnit e).toNat, (c.isInCell e).toNat)
  | .lane => fun e => toLex (tier c.isInLane isBaseline e, 0)
  | .zone => fun e => toLex (tier c.isInZone c.isInRegion e, 0)
  | .health | .custom _ => fun _ => toLex (0, 0)

def Leaves (c : Context) (filter : Filter) (endpoints : List Endpoint) : Prop :=
  ∀ e ∈ endpoints, filter.accepts e ∧ ∀ other ∈ endpoints, filter.rank c other ≤ filter.rank c e

theorem Leaves.of_subset {filter : Filter} {c : Context} {endpoints part : List Endpoint}
    (leaves : filter.Leaves c endpoints) (isPart : part ⊆ endpoints) : filter.Leaves c part := by
  intro e mem
  obtain ⟨accepted, highest⟩ := leaves e (isPart mem)
  exact ⟨accepted, fun other inPart => highest other (isPart inPart)⟩

theorem accepts_of_ne_health {filter : Filter} (other : filter ≠ .health) (e : Endpoint) :
    filter.accepts e := by
  cases filter with
  | health => exact absurd rfl other
  | live | lane | zone | custom => rfl

section BuiltIn

variable {filter : Filter} (builtIn : filter.IsBuiltIn) (c : Context)
include builtIn

theorem IsBuiltIn.apply_eq_best (endpoints : List Endpoint) :
    filter.apply c endpoints = best (filter.rank c) (endpoints.filter filter.accepts) := by
  have all (xs : List Endpoint) : xs.filter (fun _ => true) = xs := List.filter_true xs
  cases filter with
  | health => exact (best_const _ _).symm
  | live =>
    simp only [apply, accepts, rank]
    rw [all, best_lex, live_eq_prefer, prefer_eq_best, prefer_eq_best]
  | lane =>
    simp only [apply, accepts, rank]
    rw [all, best_lex, best_const, lane_eq_best]
  | zone =>
    simp only [apply, accepts, rank]
    rw [all, best_lex, best_const, zone_eq_best]
  | custom keep => exact absurd builtIn id

theorem IsBuiltIn.apply_eq_filter (endpoints : List Endpoint) :
    ∃ keep : Endpoint → Bool, filter.apply c endpoints = endpoints.filter keep := by
  rw [builtIn.apply_eq_best, best, List.filter_filter]
  exact ⟨_, rfl⟩

theorem IsBuiltIn.apply_subset (endpoints : List Endpoint) :
    filter.apply c endpoints ⊆ endpoints := by
  obtain ⟨keep, kept⟩ := builtIn.apply_eq_filter c endpoints
  rw [kept]
  exact List.filter_sublist.subset

theorem IsBuiltIn.apply_eq_nil_iff {endpoints : List Endpoint} (accepted : ∀ e ∈ endpoints, filter.accepts e) :
    filter.apply c endpoints = [] ↔ endpoints = [] := by
  rw [builtIn.apply_eq_best, best_eq_nil_iff, List.filter_eq_self.2 accepted]

theorem IsBuiltIn.leaves_apply (endpoints : List Endpoint) : filter.Leaves c (filter.apply c endpoints) := by
  intro e mem
  rw [builtIn.apply_eq_best] at mem ⊢
  obtain ⟨given, highest⟩ := mem_best_iff.1 mem
  exact ⟨(List.mem_filter.1 given).2, fun other kept => highest other (mem_best_iff.1 kept).1⟩

theorem IsBuiltIn.apply_eq_self {endpoints : List Endpoint} (leaves : filter.Leaves c endpoints) :
    filter.apply c endpoints = endpoints := by
  rw [builtIn.apply_eq_best, List.filter_eq_self.2 (fun e mem => (leaves e mem).1), best,
    List.filter_eq_self]
  exact fun e mem => decide_eq_true (leaves e mem).2

end BuiltIn

end Filter

namespace Chain

variable (c : Context) {chain : Chain}

theorem apply_cons (filter : Filter) (later : Chain) (endpoints : List Endpoint) :
    Chain.apply c (filter :: later) endpoints = Chain.apply c later (filter.apply c endpoints) :=
  rfl

theorem apply_eq_filter (builtIn : ∀ filter ∈ chain, filter.IsBuiltIn) (endpoints : List Endpoint) :
    ∃ keep : Endpoint → Bool, chain.apply c endpoints = endpoints.filter keep := by
  induction chain generalizing endpoints with
  | nil => exact ⟨fun _ => true, (List.filter_true endpoints).symm⟩
  | cons filter later ih =>
    obtain ⟨first, others⟩ := List.forall_mem_cons.1 builtIn
    obtain ⟨keep, kept⟩ := first.apply_eq_filter c endpoints
    obtain ⟨keepLater, keptLater⟩ := ih others (filter.apply c endpoints)
    rw [apply_cons, keptLater, kept, List.filter_filter]
    exact ⟨_, rfl⟩

theorem apply_sublist (builtIn : ∀ filter ∈ chain, filter.IsBuiltIn) (endpoints : List Endpoint) :
    (chain.apply c endpoints).Sublist endpoints := by
  obtain ⟨keep, kept⟩ := apply_eq_filter c builtIn endpoints
  rw [kept]
  exact List.filter_sublist

theorem count_apply (builtIn : ∀ filter ∈ chain, filter.IsBuiltIn) {endpoints : List Endpoint}
    {e : Endpoint} (mem : e ∈ chain.apply c endpoints) :
    (chain.apply c endpoints).count e = endpoints.count e := by
  obtain ⟨keep, kept⟩ := apply_eq_filter c builtIn endpoints
  rw [kept] at mem ⊢
  exact List.count_filter (List.mem_filter.1 mem).2

theorem apply_eq_nil_iff (builtIn : ∀ filter ∈ chain, filter.IsBuiltIn) {endpoints : List Endpoint}
    (accepted : ∀ filter ∈ chain, ∀ e ∈ endpoints, filter.accepts e) :
    chain.apply c endpoints = [] ↔ endpoints = [] := by
  induction chain generalizing endpoints with
  | nil => rfl
  | cons filter later ih =>
    obtain ⟨first, others⟩ := List.forall_mem_cons.1 builtIn
    obtain ⟨byFirst, byOthers⟩ := List.forall_mem_cons.1 accepted
    have fewer := first.apply_subset c endpoints
    rw [apply_cons, ih others (fun one mem e kept => byOthers one mem e (fewer kept)),
      first.apply_eq_nil_iff c byFirst]

theorem leaves_apply (builtIn : ∀ filter ∈ chain, filter.IsBuiltIn) (endpoints : List Endpoint) :
    ∀ filter ∈ chain, filter.Leaves c (chain.apply c endpoints) := by
  induction chain generalizing endpoints with
  | nil => exact List.forall_mem_nil _
  | cons filter later ih =>
    obtain ⟨first, others⟩ := List.forall_mem_cons.1 builtIn
    have fewer := (apply_sublist c others (filter.apply c endpoints)).subset
    rw [apply_cons, List.forall_mem_cons]
    exact ⟨(first.leaves_apply c endpoints).of_subset fewer, ih others _⟩

theorem apply_eq_self (builtIn : ∀ filter ∈ chain, filter.IsBuiltIn) {endpoints : List Endpoint}
    (leaves : ∀ filter ∈ chain, filter.Leaves c endpoints) :
    chain.apply c endpoints = endpoints := by
  induction chain with
  | nil => rfl
  | cons filter later ih =>
    obtain ⟨first, others⟩ := List.forall_mem_cons.1 builtIn
    obtain ⟨byFirst, byOthers⟩ := List.forall_mem_cons.1 leaves
    rw [apply_cons, first.apply_eq_self c byFirst, ih others byOthers]

theorem accessible_of_mem (builtIn : ∀ filter ∈ chain, filter.IsBuiltIn) (asked : .health ∈ chain)
    {endpoints : List Endpoint} {e : Endpoint} (mem : e ∈ chain.apply c endpoints) :
    e.isAccessible :=
  (leaves_apply c builtIn endpoints .health asked e mem).1

theorem apply_eq_nil_iff_of_health {later : Chain}
    (builtIn : ∀ filter ∈ (.health :: later : Chain), filter.IsBuiltIn) (endpoints : List Endpoint) :
    Chain.apply c (.health :: later) endpoints = [] ↔ ∀ e ∈ endpoints, ¬ e.isAccessible := by
  have accepted : ∀ filter ∈ later, ∀ e ∈ healthy endpoints, filter.accepts e := by
    intro filter _ e mem
    by_cases health : filter = .health
    · subst health
      exact (List.mem_filter.1 mem).2
    · exact Filter.accepts_of_ne_health health e
  calc Chain.apply c (.health :: later) endpoints = []
    _ ↔ Chain.apply c later (healthy endpoints) = [] := by rw [apply_cons]; rfl
    _ ↔ healthy endpoints = [] := apply_eq_nil_iff c (List.forall_mem_cons.1 builtIn).2 accepted
    _ ↔ ∀ e ∈ endpoints, ¬ e.isAccessible := List.filter_eq_nil_iff

-- What a chain makes of a snapshot: it invents, moves and doubles nothing, and whom it loses
-- altogether is for health to say.
structure Narrowed (chain : Chain) (endpoints : List Endpoint) : Prop where
  sublist : (chain.apply c endpoints).Sublist endpoints
  count_eq : ∀ e ∈ chain.apply c endpoints, (chain.apply c endpoints).count e = endpoints.count e
  ne_nil : .health ∉ chain → endpoints ≠ [] → chain.apply c endpoints ≠ []
  accessible : .health ∈ chain → ∀ e ∈ chain.apply c endpoints, e.isAccessible
  eq_nil_iff : chain.head? = some .health →
    (chain.apply c endpoints = [] ↔ ∀ e ∈ endpoints, ¬ e.isAccessible)

end Chain

section Run

variable (c : Context) {chain : Chain} (builtIn : ∀ filter ∈ chain, filter.IsBuiltIn)
  (endpoints : List Endpoint)
include builtIn

theorem chain_narrows : Chain.Narrowed c chain endpoints where
  sublist := Chain.apply_sublist c builtIn endpoints
  count_eq _ mem := Chain.count_apply c builtIn mem
  ne_nil unasked some none := by
    have accepted : ∀ filter ∈ chain, ∀ e ∈ endpoints, filter.accepts e := fun filter mem e _ =>
      Filter.accepts_of_ne_health (fun health => unasked (health ▸ mem)) e
    exact some ((Chain.apply_eq_nil_iff c builtIn accepted).1 none)
  accessible asked _ mem := Chain.accessible_of_mem c builtIn asked mem
  eq_nil_iff first := by
    cases chain with
    | nil => cases first
    | cons filter later =>
      cases first
      exact Chain.apply_eq_nil_iff_of_health c builtIn endpoints

theorem chain_settles :
    (∀ filter ∈ chain, filter.apply c (chain.apply c endpoints) = chain.apply c endpoints) ∧
      chain.apply c (chain.apply c endpoints) = chain.apply c endpoints := by
  have leaves := Chain.leaves_apply c builtIn endpoints
  exact ⟨fun filter mem => (builtIn filter mem).apply_eq_self c (leaves filter mem),
    Chain.apply_eq_self c builtIn leaves⟩

end Run

section Mixed

def zonalCaller : Context :=
  ⟨{ Location.nowhere with unit := some "north", zone := some "n1" }, .plain "svc" none⟩

def placed (host : String) (state : EndpointState) (labels : List (String × String)) : Endpoint :=
  ⟨host, 80, state, .ofList labels⟩

-- The only one in both the unit and the zone is suspended, and one is listed twice.
def mixed : List Endpoint :=
  [placed "a" .suspend [("unit", "north"), ("zone", "n1")],
    placed "b" .healthy [("unit", "north"), ("lane", "gray")],
    placed "c" .healthy [("unit", "south"), ("zone", "n1")],
    placed "b" .healthy [("unit", "north"), ("lane", "gray")]]

def zoneFirst : Chain := [.zone, .live, .lane, .zone]

def healthFirst : Chain := [.health, .live, .zone, .health, .lane]

theorem zoneFirst_builtIn : ∀ filter ∈ zoneFirst, filter.IsBuiltIn := by
  simp [zoneFirst, Filter.IsBuiltIn]

theorem healthFirst_builtIn : ∀ filter ∈ healthFirst, filter.IsBuiltIn := by
  simp [healthFirst, Filter.IsBuiltIn]

theorem mixed_narrows :
    (∀ filter ∈ zoneFirst, filter.IsBuiltIn) ∧ .health ∉ zoneFirst ∧
      zoneFirst.apply zonalCaller mixed ≠ [] ∧
      (∀ filter ∈ healthFirst, filter.IsBuiltIn) ∧ healthFirst.head? = some .health ∧
      (healthFirst.apply zonalCaller mixed = [] ↔ ∀ e ∈ mixed, ¬ e.isAccessible) :=
  have unasked : .health ∉ zoneFirst := by simp [zoneFirst]
  have asked : healthFirst.head? = some .health := rfl
  ⟨zoneFirst_builtIn, unasked,
    (chain_narrows zonalCaller zoneFirst_builtIn mixed).ne_nil unasked (by decide),
    healthFirst_builtIn, asked,
    (chain_narrows zonalCaller healthFirst_builtIn mixed).eq_nil_iff asked⟩

theorem mixed_settles :
    (∀ filter ∈ zoneFirst, filter.IsBuiltIn) ∧
      zoneFirst.apply zonalCaller mixed =
        [placed "a" .suspend [("unit", "north"), ("zone", "n1")]] ∧
      (∀ filter ∈ zoneFirst, filter.apply zonalCaller (zoneFirst.apply zonalCaller mixed) =
        zoneFirst.apply zonalCaller mixed) ∧
      zoneFirst.apply zonalCaller (zoneFirst.apply zonalCaller mixed) =
        zoneFirst.apply zonalCaller mixed :=
  ⟨zoneFirst_builtIn, by decide, chain_settles zonalCaller zoneFirst_builtIn mixed⟩

end Mixed

end Governance.Routing
