import Mathlib.Data.Set.Basic

set_option autoImplicit false

namespace Governance.Text

-- The separator is told from its first character, which it does not have again.
def IsSeparator (sep : String) : Prop :=
  ∃ first later, sep.toList = first :: later ∧ first ∉ later

def GoesOn (sep short long : String) : Prop := ∃ more, long = short ++ sep ++ more

def Unambiguous (sep : String) (names : Set String) : Prop :=
  ∀ short ∈ names, ∀ long ∈ names, ¬ GoesOn sep short long

theorem ne_of_goesOn {sep short long : String} (isSep : IsSeparator sep)
    (goesOn : GoesOn sep short long) : long ≠ short := by
  obtain ⟨first, later, chars, -⟩ := isSep
  obtain ⟨more, rfl⟩ := goesOn
  intro same
  have lengths := congrArg (fun name => name.toList.length) same
  simp [chars] at lengths

-- A separator that ends where another one begins is the same one or comes later as a whole.
theorem separator_append_eq {first : Char} {later gap u v : List Char} (alone : first ∉ later)
    (same : first :: later ++ u = gap ++ (first :: later ++ v)) :
    (gap = [] ∧ u = v) ∨
      ∃ more, gap = first :: later ++ more ∧ u = more ++ (first :: later ++ v) := by
  cases gap with
  | nil => exact .inl ⟨rfl, by simpa using same⟩
  | cons c gap =>
    obtain ⟨rfl, tails⟩ : first = c ∧ later ++ u = gap ++ (first :: later ++ v) := by
      simpa using same
    rcases List.append_eq_append_iff.1 tails with ⟨more, rfl, rest⟩ | ⟨more, rfl, rest⟩
    · exact .inr ⟨more, rfl, rest⟩
    · cases more with
      | nil => exact .inr ⟨[], by simp, by simpa using rest.symm⟩
      | cons d more =>
        obtain ⟨rfl, -⟩ : first = d ∧ _ := by simpa using rest
        exact absurd (List.mem_append_right gap List.mem_cons_self) alone

theorem toList_joined (name sep rest : String) :
    (name ++ sep ++ rest).toList = name.toList ++ (sep.toList ++ rest.toList) := by
  simp [List.append_assoc]

theorem goesOn_of_gap {sep x y u v : String} (isSep : IsSeparator sep) {gap : List Char}
    (longer : y.toList = x.toList ++ gap)
    (rest : sep.toList ++ u.toList = gap ++ (sep.toList ++ v.toList)) :
    (x = y ∧ u = v) ∨ ∃ more, y = x ++ sep ++ more ∧ u = more ++ sep ++ v := by
  obtain ⟨first, later, chars, alone⟩ := isSep
  rw [chars] at rest
  rcases separator_append_eq alone rest with ⟨rfl, same⟩ | ⟨more, rfl, added⟩
  · refine .inl ⟨String.toList_injective ?_, String.toList_injective same⟩
    rw [longer, List.append_nil]
  · refine .inr ⟨String.ofList more, String.toList_injective ?_, String.toList_injective ?_⟩
    · rw [toList_joined, longer, chars, String.toList_ofList]
    · rw [toList_joined, added, chars, String.toList_ofList]

/-- Two joined texts are the same exactly if their parts are, or if one name goes on from the other
and what it adds begins what follows the other. -/
theorem joined_eq_iff {sep : String} (isSep : IsSeparator sep) (x y u v : String) :
    x ++ sep ++ u = y ++ sep ++ v ↔
      (x = y ∧ u = v) ∨ (∃ more, y = x ++ sep ++ more ∧ u = more ++ sep ++ v) ∨
        ∃ more, x = y ++ sep ++ more ∧ v = more ++ sep ++ u := by
  constructor
  · intro same
    have chars := congrArg String.toList same
    rw [toList_joined, toList_joined] at chars
    rcases List.append_eq_append_iff.1 chars with ⟨gap, longer, rest⟩ | ⟨gap, longer, rest⟩
    · rcases goesOn_of_gap isSep longer rest with parts | added
      · exact .inl parts
      · exact .inr (.inl added)
    · rcases goesOn_of_gap isSep longer rest with ⟨rfl, rfl⟩ | added
      · exact .inl ⟨rfl, rfl⟩
      · exact .inr (.inr added)
  · rintro (⟨rfl, rfl⟩ | ⟨more, rfl, rfl⟩ | ⟨more, rfl, rfl⟩)
    · rfl
    · simp [String.append_assoc]
    · simp [String.append_assoc]

theorem Unambiguous.joined_inj {sep : String} {names : Set String}
    (unambiguous : Unambiguous sep names) (isSep : IsSeparator sep) {x y u v : String}
    (hx : x ∈ names) (hy : y ∈ names) (same : x ++ sep ++ u = y ++ sep ++ v) : x = y ∧ u = v := by
  rcases (joined_eq_iff isSep x y u v).1 same with parts | ⟨more, longer, -⟩ | ⟨more, longer, -⟩
  · exact parts
  · exact absurd ⟨more, longer⟩ (unambiguous x hx y hy)
  · exact absurd ⟨more, longer⟩ (unambiguous y hy x hx)

end Governance.Text
