import Governance.Feed.Record
import Governance.Proofs.Table
import Mathlib.Data.List.Forall2

/-!
The written form of values, told apart from the codecs that write it. A form says which fields a
record has, in which order and of which form, and that sets and tables are in increasing order. A
codec writes a form if what it writes is all that is of the form (`Codec.Writes`); it round-trips if
moreover what it writes is read back, but for parts that have no place in the form
(`Codec.RoundTrips`).
-/

set_option autoImplicit false

namespace Governance.Feed

abbrev Form := Json → Prop

namespace Form

def number (bound : Nat) : Form := fun j => ∃ n < bound, j = .nat n

def text : Form := fun j => ∃ s, j = .string s

def word (words : List String) : Form := fun j => ∃ w ∈ words, j = .string w

def names : Form := fun j =>
  ∃ members : List String, members.Pairwise (· < ·) ∧ j = Json.strings members

def table : Form := fun j =>
  ∃ entries : List (String × String), entries.Pairwise (fun a b => a.1 < b.1) ∧
    j = .object (entries.map (fun e => (e.1, .string e.2)))

def nullable (form : Form) : Form := fun j => j = .null ∨ form j

def list (form : Form) : Form := fun j => ∃ items, (∀ item ∈ items, form item) ∧ j = .array items

def Fields (fields : List (String × Form)) (given : List (String × Json)) : Prop :=
  List.Forall₂ (fun field g => g.1 = field.1 ∧ field.2 g.2) fields given

def record (fields : List (String × Form)) : Form := fun j =>
  ∃ given, Fields fields given ∧ j = .object given

end Form

namespace Codec

variable {α β γ : Type}

-- What is read back of a value may leave out parts that are not written.
def ReadsBack (c : Codec α) (kept : α → α) : Prop := ∀ a, c.decode (c.encode a) = some (kept a)

def Writes (c : Codec α) (form : Form) : Prop := ∀ j, form j ↔ ∃ a, c.encode a = j

-- The form is canonical: what the codec writes it reads back, and whatever it reads, from this form
-- or another, it writes in this one without loss.
structure RoundTrips (c : Codec α) (kept : α → α) (form : Form) : Prop where
  reads_back : ∀ a, c.decode (c.encode a) = some (kept a)
  settles : ∀ j a, c.decode j = some a → c.decode (c.encode a) = some a
  written : ∀ a, form (c.encode a)
  canonical : ∀ j, form j ↔ ∃ a, c.decode j = some a ∧ c.encode a = j

theorem roundTrips_of {c : Codec α} {kept : α → α} {form : Form} (writes : c.Writes form)
    (reads : c.ReadsBack kept) (unwritten : ∀ a, c.encode (kept a) = c.encode a)
    (settled : ∀ j a, c.decode j = some a → kept a = a) : c.RoundTrips kept form where
  reads_back := reads
  settles j a read := by rw [reads, settled j a read]
  written a := (writes _).2 ⟨a, rfl⟩
  canonical j := by
    constructor
    · intro written
      obtain ⟨a, rfl⟩ := (writes j).1 written
      exact ⟨kept a, reads a, unwritten a⟩
    · rintro ⟨a, -, rfl⟩
      exact (writes _).2 ⟨a, rfl⟩

theorem roundTrips_of_lawful {c : Codec α} {form : Form} (writes : c.Writes form)
    (lawful : c.Lawful) : c.RoundTrips id form :=
  roundTrips_of writes lawful (fun _ => rfl) (fun _ _ _ => rfl)

theorem uint64_writes : uint64.Writes (.number UInt64.size) := by
  intro j
  constructor
  · rintro ⟨n, fits, rfl⟩
    exact ⟨n.toUInt64, congrArg Json.nat (UInt64.toNat_ofNat_of_lt' fits)⟩
  · rintro ⟨n, rfl⟩
    exact ⟨n.toNat, n.toNat_lt, rfl⟩

theorem uint32_writes : uint32.Writes (.number UInt32.size) := by
  intro j
  constructor
  · rintro ⟨n, fits, rfl⟩
    exact ⟨n.toUInt32, congrArg Json.nat (UInt32.toNat_ofNat_of_lt' fits)⟩
  · rintro ⟨n, rfl⟩
    exact ⟨n.toNat, n.toNat_lt, rfl⟩

theorem text_writes : text.Writes .text := fun _ =>
  ⟨fun ⟨s, written⟩ => ⟨s, written.symm⟩, fun ⟨s, written⟩ => ⟨s, written.symm⟩⟩

theorem names_lawful : names.Lawful := by
  intro s
  change (decodeAll text.decode (s.toList.map text.encode)).map NameSet.ofList = _
  rw [decodeAll_map text_lawful, List.map_id', Option.map_some, NameSet.ofList_toList]

theorem names_writes : names.Writes .names := by
  intro j
  constructor
  · rintro ⟨members, ordered, rfl⟩
    refine ⟨⟨⟨members.map (fun member => (member, ())), List.pairwise_map.2 ordered⟩⟩, ?_⟩
    change Json.strings ((members.map fun member => (member, ())).map (·.1)) = _
    rw [List.map_map]
    exact congrArg Json.strings (List.map_id' members)
  · rintro ⟨s, rfl⟩
    exact ⟨s.toList, List.pairwise_map.2 s.table.ordered, rfl⟩

theorem decodePairs_map (entries : List (String × String)) :
    decodePairs (entries.map (fun e => (e.1, .string e.2))) = some entries := by
  induction entries with
  | nil => rfl
  | cons e rest ih => simp [decodePairs, ih]

theorem table_lawful : table.Lawful := by
  intro t
  change (decodePairs (t.entries.map fun e => (e.1, .string e.2))).map Table.ofList = _
  rw [decodePairs_map, Option.map_some, Table.ofList_entries]

theorem table_writes : table.Writes .table := by
  intro j
  constructor
  · rintro ⟨entries, ordered, rfl⟩
    exact ⟨⟨entries, ordered⟩, rfl⟩
  · rintro ⟨t, rfl⟩
    exact ⟨t.entries, t.ordered, rfl⟩

-- A codec of its own that took null for a value would hide the value behind what is absent.
theorem nullable_lawful {c : Codec α} (lawful : c.Lawful) (noNull : c.decode .null = none) :
    c.nullable.Lawful := by
  intro a
  cases a with
  | none => rfl
  | some a =>
    have back := lawful a
    simp only [nullable, Json.ofOption]
    split
    · rename_i written
      rw [written, noNull] at back
      cases back
    · rw [back, Option.map_some]

theorem nullable_writes {c : Codec α} {form : Form} (writes : c.Writes form) :
    c.nullable.Writes form.nullable := by
  intro j
  constructor
  · rintro (rfl | written)
    · exact ⟨none, rfl⟩
    · obtain ⟨a, rfl⟩ := (writes j).1 written
      exact ⟨some a, rfl⟩
  · rintro ⟨_ | a, rfl⟩
    · exact .inl rfl
    · exact .inr ((writes _).2 ⟨a, rfl⟩)

theorem list_readsBack {c : Codec α} {kept : α → α} (reads : c.ReadsBack kept) :
    (list c).ReadsBack (List.map kept) := decodeAll_map reads

theorem list_unwritten {c : Codec α} {kept : α → α} (unwritten : ∀ a, c.encode (kept a) = c.encode a)
    (as : List α) : (list c).encode (as.map kept) = (list c).encode as := by
  simp only [list, List.map_map, Function.comp_def, unwritten]

theorem decodeAll_each {P : α → Prop} {read : Json → Option α}
    (each : ∀ j a, read j = some a → P a) {items : List Json} {as : List α}
    (all : decodeAll read items = some as) : ∀ a ∈ as, P a := by
  induction items generalizing as with
  | nil =>
    cases all
    nofun
  | cons j rest ih =>
    simp only [decodeAll] at all
    split at all
    · rename_i a others readHead readRest
      cases all
      intro b mem
      cases mem with
      | head => exact each j a readHead
      | tail _ mem => exact ih readRest b mem
    · cases all

theorem list_each {P : α → Prop} {c : Codec α} (each : ∀ j a, c.decode j = some a → P a) (j : Json)
    (as : List α) (read : (list c).decode j = some as) : ∀ a ∈ as, P a := by
  cases j with
  | array items => exact decodeAll_each each read
  | _ => cases read

theorem list_writes {c : Codec α} {form : Form} (writes : c.Writes form) :
    (list c).Writes form.list := by
  intro j
  constructor
  · rintro ⟨items, each, rfl⟩
    obtain ⟨as, rfl⟩ : ∃ as, List.map c.encode as = items := by
      rw [← Set.mem_range, Set.range_list_map, Set.mem_ofPred_eq]
      exact fun item mem => (writes item).1 (each item mem)
    exact ⟨as, rfl⟩
  · rintro ⟨as, rfl⟩
    refine ⟨as.map c.encode, fun item mem => ?_, rfl⟩
    obtain ⟨a, -, rfl⟩ := List.mem_map.1 mem
    exact (writes _).2 ⟨a, rfl⟩

end Codec

section Fields

variable {α β γ : Type} {fields more : List (String × Form)}

def WritesFields (parts : β → List (String × Json)) (fields : List (String × Form)) : Prop :=
  ∀ given, Form.Fields fields given ↔ ∃ b, parts b = given

theorem writesFields_nil : WritesFields (fun _ : Unit => []) [] := by
  intro given
  rw [Form.Fields, List.forall₂_nil_left_iff]
  exact ⟨fun empty => ⟨(), empty.symm⟩, fun ⟨_, empty⟩ => empty.symm⟩

theorem Codec.Writes.cons {c : Codec α} {form : Form} {rest : β → List (String × Json)}
    (writes : c.Writes form) (name : String) (others : WritesFields rest fields) :
    WritesFields (fun p : α × β => (name, c.encode p.1) :: rest p.2) ((name, form) :: fields) := by
  intro given
  rw [Form.Fields, List.forall₂_cons_left_iff]
  constructor
  · rintro ⟨⟨_, j⟩, later, ⟨rfl, written⟩, laterWritten, rfl⟩
    obtain ⟨a, rfl⟩ := (writes j).1 written
    obtain ⟨b, rfl⟩ := (others later).1 laterWritten
    exact ⟨(a, b), rfl⟩
  · rintro ⟨⟨a, b⟩, rfl⟩
    exact ⟨(name, c.encode a), rest b, ⟨rfl, (writes _).2 ⟨a, rfl⟩⟩, (others _).2 ⟨b, rfl⟩, rfl⟩

namespace WritesFields

theorem append {parts : β → List (String × Json)} {others : γ → List (String × Json)}
    (first : WritesFields parts fields) (second : WritesFields others more) :
    WritesFields (fun p : β × γ => parts p.1 ++ others p.2) (fields ++ more) := by
  intro given
  constructor
  · intro (written : List.Forall₂ _ (fields ++ more) given)
    have taken := (List.forall₂_take_append given fields more written.flip).flip
    have left := (List.forall₂_drop_append given fields more written.flip).flip
    obtain ⟨b, firstPart⟩ := (first _).1 taken
    obtain ⟨d, secondPart⟩ := (second _).1 left
    refine ⟨(b, d), ?_⟩
    dsimp only
    rw [firstPart, secondPart, List.take_append_drop]
  · rintro ⟨⟨b, d⟩, rfl⟩
    exact List.rel_append ((first _).2 ⟨b, rfl⟩) ((second _).2 ⟨d, rfl⟩)

theorem comp {parts : β → List (String × Json)} (writes : WritesFields parts fields)
    (split : γ → β) (every : Function.Surjective split) :
    WritesFields (fun d => parts (split d)) fields :=
  fun given => (writes given).trans every.exists

theorem record {parts : α → List (String × Json)} {c : Codec α} (writes : WritesFields parts fields)
    (encode_eq : ∀ a, c.encode a = .object (parts a)) : c.Writes (.record fields) := by
  intro j
  constructor
  · rintro ⟨given, written, rfl⟩
    obtain ⟨a, rfl⟩ := (writes given).1 written
    exact ⟨a, encode_eq a⟩
  · rintro ⟨a, rfl⟩
    exact ⟨parts a, (writes _).2 ⟨a, rfl⟩, encode_eq a⟩

end WritesFields

namespace Record

variable {layout : List String} {given : List (String × Json)}

theorem isPlain_of_written (names : given.map (·.1) = layout) (nodup : layout.Nodup) :
    isPlain layout given = true := by
  rw [isPlain, List.all_eq_true]
  intro name _
  have once := List.nodup_iff_count_le_one.1 nodup name
  rw [← names, List.count, List.countP_map, List.countP_eq_length_filter] at once
  exact decide_eq_true once

theorem isOpenAt_of_written (level : Nat) (names : given.map (·.1) = layout) :
    isOpenAt layout level given = true := by
  rw [isOpenAt, List.all_eq_true]
  intro field mem
  have inLayout : field.1 ∈ layout := names ▸ List.mem_map_of_mem mem
  simp [inLayout]

theorem closed?_bind (read : Record → Option α) (names : given.map (·.1) = layout)
    (nodup : layout.Nodup) : (closed? layout (.object given) >>= read) = read ⟨given⟩ := by
  rw [closed?, if_pos (isPlain_of_written names nodup)]
  rfl

theorem open?_bind (read : Record → Option α) (level : Nat) (names : given.map (·.1) = layout)
    (nodup : layout.Nodup) : (open? layout level (.object given) >>= read) = read ⟨given⟩ := by
  rw [open?, isPlain_of_written names nodup, isOpenAt_of_written level names]
  rfl

theorem field_bind {r : Record} {name : String} {c : Codec α} {missing a : α} {j : Json}
    (reads : c.decode j = some a) (there : r.given.lookup name = some j) (read : α → Option β) :
    (r.field name c missing >>= read) = read a := by
  rw [field, there]
  dsimp only
  rw [reads]
  rfl

theorem of_field {P : α → Prop} {r : Record} {name : String} {c : Codec α} {missing a : α}
    (read : r.field name c missing = some a) (left : P missing)
    (each : ∀ j a, c.decode j = some a → P a) : P a := by
  unfold field at read
  split at read
  · cases read
    exact left
  · exact each _ a read

theorem optional_bind {r : Record} {name : String} {c : Codec α} {a : Option α}
    (lawful : c.nullable.Lawful) (there : r.given.lookup name = some (c.nullable.encode a))
    (read : Option α → Option β) : (r.optional name c >>= read) = read a :=
  field_bind (lawful a) there read

end Record

end Fields

end Governance.Feed
