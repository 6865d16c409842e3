set_option autoImplicit false

namespace Governance

structure Table (α : Type) where
  entries : List (String × α)
  ordered : entries.Pairwise (fun a b => a.1 < b.1)
  deriving DecidableEq

namespace Table

variable {α β : Type}

def empty : Table α := ⟨[], .nil⟩

instance : Inhabited (Table α) := ⟨empty⟩

def get? (t : Table α) (name : String) : Option α := t.entries.lookup name

def contains (t : Table α) (name : String) : Bool := (t.get? name).isSome

def names (t : Table α) : List String := t.entries.map (·.1)

def size (t : Table α) : Nat := t.entries.length

def place (name : String) (value : α) : List (String × α) → List (String × α)
  | [] => [(name, value)]
  | (n, v) :: rest =>
    if name < n then (name, value) :: (n, v) :: rest
    else if n < name then (n, v) :: place name value rest
    else (name, value) :: rest

theorem mem_place {name : String} {value : α} {entries : List (String × α)} {e : String × α}
    (h : e ∈ place name value entries) : e = (name, value) ∨ e ∈ entries := by
  induction entries with
  | nil => simpa [place] using h
  | cons head rest ih =>
    obtain ⟨n, v⟩ := head
    simp only [place] at h
    split at h
    · simpa using h
    · split at h
      · rcases List.mem_cons.1 h with h | h
        · simp [h]
        · rcases ih h with h | h <;> simp [h]
      · rcases List.mem_cons.1 h with h | h <;> simp [h]

theorem place_ordered (name : String) (value : α) {entries : List (String × α)}
    (h : entries.Pairwise (fun a b => a.1 < b.1)) :
    (place name value entries).Pairwise (fun a b => a.1 < b.1) := by
  induction entries with
  | nil => simp [place]
  | cons head rest ih =>
    obtain ⟨n, v⟩ := head
    obtain ⟨low, tail⟩ := List.pairwise_cons.1 h
    simp only [place]
    split
    · rename_i less
      refine List.pairwise_cons.2 ⟨?_, h⟩
      intro e mem
      rcases List.mem_cons.1 mem with rfl | mem
      · exact less
      · exact String.lt_trans less (low e mem)
    · split
      · rename_i less
        refine List.pairwise_cons.2 ⟨?_, ih tail⟩
        intro e mem
        rcases mem_place mem with rfl | mem
        · exact less
        · exact low e mem
      · rename_i notLess notMore
        have same : name = n :=
          String.le_antisymm (String.not_lt.1 notMore) (String.not_lt.1 notLess)
        subst same
        exact List.pairwise_cons.2 ⟨low, tail⟩

def insert (t : Table α) (name : String) (value : α) : Table α :=
  ⟨place name value t.entries, place_ordered name value t.ordered⟩

def retain (t : Table α) (keep : String → Bool) : Table α :=
  ⟨t.entries.filter (fun e => keep e.1), t.ordered.filter _⟩

def erase (t : Table α) (name : String) : Table α := t.retain (· != name)

def map (f : α → β) (t : Table α) : Table β :=
  ⟨t.entries.map (fun e => (e.1, f e.2)), by
    rw [List.pairwise_map]
    exact t.ordered⟩

def insertAll (t : Table α) (pairs : List (String × α)) : Table α :=
  pairs.foldl (fun t e => t.insert e.1 e.2) t

def ofList (pairs : List (String × α)) : Table α := empty.insertAll pairs

theorem lookup_cons_if (m n : String) (v : α) (rest : List (String × α)) :
    ((n, v) :: rest).lookup m = if m = n then some v else rest.lookup m := by
  rw [List.lookup_cons]
  by_cases same : m = n
  · simp [same]
  · simp [same, beq_false_of_ne same]

theorem lookup_place (name m : String) (value : α) (entries : List (String × α)) :
    (place name value entries).lookup m = if m = name then some value else entries.lookup m := by
  induction entries with
  | nil => simp [place, lookup_cons_if]
  | cons head rest ih =>
    obtain ⟨n, v⟩ := head
    simp only [place]
    split
    · simp [lookup_cons_if]
    · split
      · rename_i less
        simp only [lookup_cons_if, ih]
        by_cases atHead : m = n
        · have differ : ¬ m = name := by
            rintro rfl
            exact String.lt_irrefl n (atHead ▸ less)
          simp [atHead ▸ differ, atHead]
        · simp [atHead]
      · rename_i notLess notMore
        have same : name = n :=
          String.le_antisymm (String.not_lt.1 notMore) (String.not_lt.1 notLess)
        subst same
        simp only [lookup_cons_if]
        split <;> rfl

theorem get?_empty (name : String) : (empty : Table α).get? name = none := rfl

theorem get?_insert (t : Table α) (name m : String) (value : α) :
    (t.insert name value).get? m = if m = name then some value else t.get? m :=
  lookup_place name m value t.entries

theorem lookup_filter_name (keep : String → Bool) (name : String) (entries : List (String × α)) :
    (entries.filter (fun e => keep e.1)).lookup name =
      if keep name then entries.lookup name else none := by
  induction entries with
  | nil => simp
  | cons head rest ih =>
    obtain ⟨n, v⟩ := head
    by_cases same : name = n
    · subst same
      by_cases kept : keep name <;> simp [kept, ih]
    · by_cases kept : keep n <;> simp [kept, lookup_cons_if, same, ih]

theorem get?_retain (t : Table α) (keep : String → Bool) (name : String) :
    (t.retain keep).get? name = if keep name then t.get? name else none :=
  lookup_filter_name keep name t.entries

theorem get?_erase (t : Table α) (name m : String) :
    (t.erase name).get? m = if m = name then none else t.get? m := by
  rw [erase, get?_retain]
  by_cases same : m = name <;> simp [same]

theorem get?_map (f : α → β) (t : Table α) (name : String) :
    (t.map f).get? name = (t.get? name).map f := by
  obtain ⟨entries, ordered⟩ := t
  simp only [map, get?]
  clear ordered
  induction entries with
  | nil => rfl
  | cons head rest ih =>
    obtain ⟨n, v⟩ := head
    simp only [List.map_cons, lookup_cons_if, ih]
    split <;> rfl

theorem lookup_none_of_below {name : String} {entries : List (String × α)}
    (h : ∀ e ∈ entries, name < e.1) : entries.lookup name = none := by
  induction entries with
  | nil => rfl
  | cons head rest ih =>
    obtain ⟨n, v⟩ := head
    have differ : ¬ name = n := by
      rintro rfl
      exact String.lt_irrefl name (h (name, v) (by simp))
    simp [lookup_cons_if, differ, ih (fun e mem => h e (by simp [mem]))]

theorem lookup_none_of_head_below {name m : String} {w : α} {others : List (String × α)}
    (ordered : ((m, w) :: others).Pairwise (fun a b => a.1 < b.1)) (less : name < m) :
    ((m, w) :: others).lookup name = none := by
  refine lookup_none_of_below fun e mem => ?_
  rcases List.mem_cons.1 mem with rfl | mem
  · exact less
  · exact String.lt_trans less ((List.pairwise_cons.1 ordered).1 e mem)

theorem entries_ext {left right : List (String × α)}
    (hl : left.Pairwise (fun a b => a.1 < b.1)) (hr : right.Pairwise (fun a b => a.1 < b.1))
    (same : ∀ name, left.lookup name = right.lookup name) : left = right := by
  induction left generalizing right with
  | nil =>
    cases right with
    | nil => rfl
    | cons other others =>
      have h := same other.1
      rw [lookup_cons_if, if_pos rfl] at h
      cases h
  | cons head rest ih =>
    obtain ⟨n, v⟩ := head
    cases right with
    | nil =>
      have h := same n
      rw [lookup_cons_if, if_pos rfl] at h
      cases h
    | cons other others =>
      obtain ⟨m, w⟩ := other
      have names : n = m := by
        refine String.le_antisymm (String.not_lt.1 fun less => ?_) (String.not_lt.1 fun less => ?_)
        · have missing := lookup_none_of_head_below hl less
          simp [same m] at missing
        · have missing := lookup_none_of_head_below hr less
          simp [← same n] at missing
      subst names
      have values : v = w := by simpa [lookup_cons_if] using same n
      subst values
      obtain ⟨lowL, tailL⟩ := List.pairwise_cons.1 hl
      obtain ⟨lowR, tailR⟩ := List.pairwise_cons.1 hr
      congr 1
      refine ih tailL tailR fun name => ?_
      by_cases here : name = n
      · subst here
        rw [lookup_none_of_below lowL, lookup_none_of_below lowR]
      · simpa [lookup_cons_if, here] using same name

theorem ext {s t : Table α} (same : ∀ name, s.get? name = t.get? name) : s = t := by
  obtain ⟨left, hl⟩ := s
  obtain ⟨right, hr⟩ := t
  have h : left = right := entries_ext hl hr same
  subst h
  rfl

end Table

-- A set of names; like a table it has one written form, in increasing order.
structure NameSet where
  table : Table Unit
  deriving DecidableEq

namespace NameSet

def empty : NameSet := ⟨.empty⟩

def ofList (names : List String) : NameSet := ⟨.ofList (names.map (fun n => (n, ())))⟩

def toList (s : NameSet) : List String := s.table.names

def contains (s : NameSet) (name : String) : Bool := s.table.contains name

end NameSet

end Governance
