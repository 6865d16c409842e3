import Governance.Table
import Mathlib.Data.Set.Card

set_option autoImplicit false

namespace Governance.Table

variable {α : Type}

theorem names_nodup (t : Table α) : t.names.Nodup := by
  rw [names, List.Nodup, List.pairwise_map]
  refine t.ordered.imp fun {a b} less same => ?_
  rw [same] at less
  exact String.lt_irrefl b.1 less

theorem mem_names_iff (t : Table α) (name : String) : name ∈ t.names ↔ t.get? name ≠ none := by
  rw [ne_eq, ← Option.not_isSome_iff_eq_none, not_not, get?, List.lookup_isSome_iff, names,
    List.mem_map]
  exact exists_congr fun e => and_congr_right fun _ => by rw [beq_iff_eq, eq_comm]

theorem encard_names (t : Table α) : {name | t.get? name ≠ none}.encard = t.size := by
  have same : {name | t.get? name ≠ none} = (t.names.toFinset : Set String) := by
    ext name
    simp [← mem_names_iff]
  rw [same, Set.encard_coe_eq_coe_finsetCard, List.toFinset_card_of_nodup (names_nodup t), names,
    List.length_map, size]

theorem size_retain_add (t : Table α) (keep : String → Bool) :
    (t.retain keep).size + (t.retain (fun name => !keep name)).size = t.size :=
  (List.length_eq_length_filter_add (fun e : String × α => keep e.1)).symm

theorem encard_left_out (t : Table α) (keep : String → Bool) :
    {name | t.get? name ≠ none ∧ keep name = false}.encard =
      (t.size - (t.retain keep).size : Nat) := by
  have leftOut : {name | t.get? name ≠ none ∧ keep name = false} =
      {name | (t.retain (fun name => !keep name)).get? name ≠ none} := by
    ext name
    simp [get?_retain, and_comm]
  have sizes := t.size_retain_add keep
  rw [leftOut, encard_names]
  congr 1
  omega

theorem get?_insertAll_of_ordered (t : Table α) {pairs : List (String × α)}
    (ordered : pairs.Pairwise (fun a b => a.1 < b.1)) (name : String) :
    (t.insertAll pairs).get? name = (pairs.lookup name).or (t.get? name) := by
  induction pairs generalizing t with
  | nil => rfl
  | cons head rest ih =>
    obtain ⟨n, v⟩ := head
    obtain ⟨below, tail⟩ := List.pairwise_cons.1 ordered
    have inserted := ih (t.insert n v) tail
    rw [get?_insert] at inserted
    change ((t.insert n v).insertAll rest).get? name = _
    rw [inserted, lookup_cons_if]
    by_cases here : name = n
    · subst here
      rw [lookup_none_of_below below]
      simp
    · simp [here]

theorem get?_insertAll (t u : Table α) (name : String) :
    (t.insertAll u.entries).get? name = (u.get? name).or (t.get? name) :=
  get?_insertAll_of_ordered t u.ordered name

theorem ofList_entries (t : Table α) : ofList t.entries = t :=
  Table.ext fun name => by
    rw [ofList, get?_insertAll, get?_empty, Option.or_none]

end Governance.Table

namespace Governance.NameSet

theorem ofList_toList (s : NameSet) : ofList s.toList = s := by
  have entries : s.toList.map (fun name => (name, ())) = s.table.entries := by
    rw [toList, Table.names, List.map_map]
    exact List.map_id s.table.entries
  rw [ofList, entries, Table.ofList_entries]

end Governance.NameSet
