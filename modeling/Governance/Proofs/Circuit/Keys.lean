import Governance.Proofs.Circuit.Machines
import Governance.Proofs.Table
import Governance.Proofs.Text.Separator

set_option autoImplicit false

namespace Governance.Circuit

open Governance.Text

structure Wanted where
  service : String
  address : String
  policy : BreakerPolicy

namespace Wanted

def key (w : Wanted) : String := Registry.endpointKey w.service w.address

def IsValid (w : Wanted) : Prop := ∃ config, Config.ofPolicy w.policy = .ok config

end Wanted

def WasMade (wanted : List Wanted) (service address : String) : Prop :=
  ∃ w ∈ wanted, w.service = service ∧ w.address = address ∧ w.IsValid

namespace Registry

def keySeparator : String := "@"

theorem keySeparator_isSeparator : IsSeparator keySeparator := ⟨'@', [], by decide, by simp⟩

theorem addressIn?_eq_some_iff {service key address : String} :
    addressIn? service key = some address ↔ key = endpointKey service address := by
  constructor
  · intro found
    unfold addressIn? at found
    extract_lets start at found
    split at found
    · rename_i isStart
      obtain ⟨rest, parts⟩ := List.isPrefixOf_iff_prefix.1 isStart
      cases found
      apply String.toList_injective
      rw [← parts, List.drop_left]
      simp [start, endpointKey]
    · cases found
  · rintro rfl
    exact addressIn?_endpointKey service address

theorem endpointKey_injective (service : String) : (endpointKey service).Injective :=
  fun _ _ => endpointKey_inj

def fill (r : Registry) (w : Wanted) : Registry :=
  match r.obtain w.key w.policy with
  | .ok (_, grown) => grown
  | .error _ => r

def filled (wanted : List Wanted) : Registry := wanted.foldl fill empty

theorem get?_fill_ne_none_iff (r : Registry) (w : Wanted) (key : String) :
    (r.fill w).get? key ≠ none ↔ r.get? key ≠ none ∨ (w.key = key ∧ w.IsValid) := by
  cases found : r.get? w.key with
  | some h =>
    have kept : r.fill w = r := by rw [fill, obtain_of_get? found]
    have held : w.key = key → r.get? key ≠ none := by
      rintro rfl
      simp [found]
    rw [kept]
    tauto
  | none =>
    cases valid : Config.ofPolicy w.policy with
    | error e =>
      have kept : r.fill w = r := by rw [fill, obtain_of_invalid found valid]
      simp [kept, Wanted.IsValid, valid]
    | ok config =>
      have grown : r.fill w = r.grow w.key config := by rw [fill, obtain_of_valid found valid]
      rw [grown, get?_grow]
      by_cases here : key = w.key
      · simp [here, Wanted.IsValid, valid]
      · simp [here, Ne.symm here]

theorem get?_filled_ne_none_iff (wanted : List Wanted) (key : String) :
    (filled wanted).get? key ≠ none ↔ ∃ w ∈ wanted, w.key = key ∧ w.IsValid := by
  induction wanted using List.reverseRecOn with
  | nil => simp [filled, get?, empty, Table.get?_empty]
  | append_singleton wanted w ih =>
    rw [filled, List.foldl_append, List.foldl_cons, List.foldl_nil, get?_fill_ne_none_iff, ← filled,
      ih]
    simp only [List.mem_append, List.mem_singleton, or_and_right, exists_or, exists_eq_left]

theorem get?_filled_of_wasMade {wanted : List Wanted} {service address : String}
    (made : WasMade wanted service address) :
    (filled wanted).get? (endpointKey service address) ≠ none := by
  obtain ⟨w, mem, rfl, rfl, valid⟩ := made
  exact (get?_filled_ne_none_iff wanted w.key).2 ⟨w, mem, rfl, valid⟩

theorem get?_prune_eq_none (r : Registry) {service address : String} {live : List String}
    (gone : address ∉ live) : (r.prune service live).get? (endpointKey service address) = none := by
  rw [get?_prune, if_neg gone]

-- What pruning goes by: the key is none of the service, or one of a live address.
def outlives (service : String) (live : List String) (key : String) : Bool :=
  match addressIn? service key with
  | some address => live.contains address
  | none => true

theorem prune_keys (r : Registry) (service : String) (live : List String) :
    (r.prune service live).keys = r.keys.retain (outlives service live) := rfl

theorem outlives_eq_false_iff {service key : String} {live : List String} :
    outlives service live key = false ↔ ∃ address ∉ live, key = endpointKey service address := by
  simp only [← addressIn?_eq_some_iff, outlives]
  cases addressIn? service key <;> simp

theorem get?_prune_of_kept (r : Registry) {service key : String} {live : List String}
    (kept : ∀ address, key = endpointKey service address → address ∈ live) :
    (r.prune service live).get? key = r.get? key := by
  have outlives : outlives service live key = true := by
    rw [← Bool.not_eq_false, outlives_eq_false_iff]
    rintro ⟨address, gone, same⟩
    exact gone (kept address same)
  rw [get?, prune_keys, Table.get?_retain, if_pos outlives, get?]

def KeysDistinct (services : Set String) : Prop :=
  ∀ service ∈ services, ∀ other ∈ services, ∀ address otherAddress,
    endpointKey service address = endpointKey other otherAddress →
      service = other ∧ address = otherAddress

-- Pruning takes away the breakers that were made for the service at addresses that are not live,
-- tells how many, and keeps every other one.
structure PrunesOwn (wanted : List Wanted) (service : String) (live : List String) : Prop where
  removed : ∀ address, WasMade wanted service address → address ∉ live →
    ((filled wanted).prune service live).get? (endpointKey service address) = none
  kept : ∀ other address, WasMade wanted other address → (other = service → address ∈ live) →
    ((filled wanted).prune service live).get? (endpointKey other address) =
      (filled wanted).get? (endpointKey other address)
  same : ((filled wanted).prune service live).breakers = (filled wanted).breakers
  count : ((filled wanted).prunedCount service live : ℕ∞) =
    {address | WasMade wanted service address ∧ address ∉ live}.encard

def PrunesApart (services : Set String) : Prop :=
  ∀ wanted : List Wanted, (∀ w ∈ wanted, w.service ∈ services) → ∀ service ∈ services, ∀ live,
    PrunesOwn wanted service live

section Unambiguous

variable {services : Set String}

theorem keysDistinct_of_unambiguous (unambiguous : Unambiguous keySeparator services) :
    KeysDistinct services :=
  fun _ mem _ otherMem _ _ same =>
    unambiguous.joined_inj keySeparator_isSeparator mem otherMem same

theorem encard_pruned (distinct : KeysDistinct services) {wanted : List Wanted}
    (known : ∀ w ∈ wanted, w.service ∈ services) {service : String} (mem : service ∈ services)
    (live : List String) :
    ((filled wanted).prunedCount service live : ℕ∞) =
      {address | WasMade wanted service address ∧ address ∉ live}.encard := by
  have left : {key | (filled wanted).keys.get? key ≠ none ∧ outlives service live key = false} =
      endpointKey service '' {address | WasMade wanted service address ∧ address ∉ live} := by
    ext key
    constructor
    · rintro ⟨held, goes⟩
      obtain ⟨address, gone, rfl⟩ := outlives_eq_false_iff.1 goes
      obtain ⟨w, wMem, same, valid⟩ := (get?_filled_ne_none_iff wanted _).1 held
      obtain ⟨own, here⟩ := distinct _ (known w wMem) service mem _ _ same
      exact ⟨address, ⟨⟨w, wMem, own, here, valid⟩, gone⟩, rfl⟩
    · rintro ⟨address, ⟨made, gone⟩, rfl⟩
      exact ⟨get?_filled_of_wasMade made, outlives_eq_false_iff.2 ⟨address, gone, rfl⟩⟩
  rw [prunedCount, prune_keys, ← Table.encard_left_out, left,
    (endpointKey_injective service).encard_image]

theorem prunesApart_of_keysDistinct (distinct : KeysDistinct services) : PrunesApart services := by
  intro wanted known service mem live
  refine ⟨fun _ _ gone => get?_prune_eq_none _ gone, ?_, rfl, encard_pruned distinct known mem live⟩
  rintro other address ⟨w, wMem, rfl, rfl, -⟩ alive
  refine get?_prune_of_kept _ fun address same => ?_
  obtain ⟨own, here⟩ := distinct _ (known w wMem) service mem _ _ same
  exact here ▸ alive own

-- A key of the long name is one of the short name at another address.
theorem exists_endpointKey_eq {short long : String} (goesOn : GoesOn keySeparator short long)
    (address : String) :
    ∃ otherAddress, endpointKey long address = endpointKey short otherAddress := by
  obtain ⟨more, rfl⟩ := goesOn
  refine ⟨more ++ keySeparator ++ address, ?_⟩
  simp [endpointKey, keySeparator, String.append_assoc]

theorem unambiguous_of_keysDistinct (distinct : KeysDistinct services) :
    Unambiguous keySeparator services := by
  intro short shortMem long longMem goesOn
  obtain ⟨address, same⟩ := exists_endpointKey_eq goesOn "h:1"
  exact ne_of_goesOn keySeparator_isSeparator goesOn (distinct _ longMem _ shortMem _ _ same).1

theorem blank_isValid (service address : String) :
    Wanted.IsValid ⟨service, address, .blank⟩ :=
  ⟨⟨5, .ofMillis 30000, 1, by decide, by decide, by decide⟩, by
    exact Config.make_eq_ok ⟨5, .ofMillis 30000, 1, by decide, by decide, by decide⟩⟩

-- To prune the short name while nothing is live takes the breaker of the long name away.
theorem unambiguous_of_prunesApart (apart : PrunesApart services) :
    Unambiguous keySeparator services := by
  intro short shortMem long longMem goesOn
  have different := ne_of_goesOn keySeparator_isSeparator goesOn
  obtain ⟨address, same⟩ := exists_endpointKey_eq goesOn "h:1"
  let wanted : List Wanted := [⟨long, "h:1", .blank⟩]
  have made : WasMade wanted long "h:1" :=
    ⟨_, List.mem_singleton_self _, rfl, rfl, blank_isValid _ _⟩
  have known : ∀ w ∈ wanted, w.service ∈ services := by simpa [wanted] using longMem
  have kept := (apart wanted known short shortMem []).kept _ _ made
    (fun both => absurd both different)
  have held := get?_filled_of_wasMade made
  rw [← kept, same] at held
  exact held (get?_prune_eq_none _ (List.not_mem_nil))

end Unambiguous

/-- Services have breakers of their own exactly if no name of theirs goes on from another one with
the separator of the address, and pruning keeps to its service exactly then. -/
theorem services_apart_iff (services : Set String) :
    (KeysDistinct services ↔ Unambiguous keySeparator services) ∧
      (PrunesApart services ↔ Unambiguous keySeparator services) :=
  ⟨⟨unambiguous_of_keysDistinct, keysDistinct_of_unambiguous⟩,
    ⟨unambiguous_of_prunesApart,
      fun unambiguous => prunesApart_of_keysDistinct (keysDistinct_of_unambiguous unambiguous)⟩⟩

def lookalikes : List Wanted := [⟨"order@gray", "h:1", .blank⟩]

theorem lookalike_pruned :
    (Wanted.mk "order@gray" "h:1" .blank).key = endpointKey "order" "gray@h:1" ∧
      (filled lookalikes).keys.names = ["order@gray@h:1"] ∧
      (filled lookalikes).prunedCount "order" [] = 1 ∧
      ((filled lookalikes).prune "order" []).keys.names = [] := by
  decide +kernel

end Registry

end Governance.Circuit
