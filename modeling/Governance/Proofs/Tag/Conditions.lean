import Governance.Policy.Service

set_option autoImplicit false

namespace Governance.Tag

def Registry.told (tags : Registry) (key : String) (request : Request) : List String :=
  (tags.values key request).getD []

namespace Condition

structure Lawful (request : Request) (tags : Registry) : Prop where
  equal_iff : ∀ key values, holds ⟨key, .equal, values⟩ request tags ↔
    ∃ v, (tags.told key request).head? = some v ∧ values.head? = some v
  oneOf_iff : ∀ key values, holds ⟨key, .oneOf, values⟩ request tags ↔
    ∃ v ∈ tags.told key request, v ∈ values
  startsWith_iff : ∀ key values, holds ⟨key, .startsWith, values⟩ request tags ↔
    ∃ v ∈ tags.told key request, ∃ start ∈ values, start.toList <+: v.toList
  notEqual_iff : ∀ key values, holds ⟨key, .notEqual, values⟩ request tags ↔
    ¬ holds ⟨key, .equal, values⟩ request tags
  noneOf_iff : ∀ key values, holds ⟨key, .noneOf, values⟩ request tags ↔
    ¬ holds ⟨key, .oneOf, values⟩ request tags
  oneOf_of_equal : ∀ key values, holds ⟨key, .equal, values⟩ request tags →
    holds ⟨key, .oneOf, values⟩ request tags
  startsWith_of_oneOf : ∀ key values, holds ⟨key, .oneOf, values⟩ request tags →
    holds ⟨key, .startsWith, values⟩ request tags
  untold : ∀ c : Condition, tags.values c.key request = none ∨ tags.values c.key request = some [] →
    (c.holds request tags ↔ c.op = .notEqual ∨ c.op = .noneOf)
  grows : ∀ op, op = .oneOf ∨ op = .startsWith → ∀ key values key' values' request' tags',
    tags.told key request ⊆ Registry.told tags' key' request' → values ⊆ values' →
    holds ⟨key, op, values⟩ request tags → holds ⟨key', op, values'⟩ request' tags'
  sameSets : ∀ op, op = .oneOf ∨ op = .startsWith → ∀ key values key' values' request' tags',
    (∀ v, v ∈ tags.told key request ↔ v ∈ Registry.told tags' key' request') →
    (∀ v, v ∈ values ↔ v ∈ values') →
    holds ⟨key, op, values⟩ request tags = holds ⟨key', op, values'⟩ request' tags'
  rule_iff : ∀ m : MethodPolicy, m.holds request tags ↔ ∀ c ∈ m.conditions, c.holds request tags
  rule_sameSet : ∀ m m' : MethodPolicy, (∀ c, c ∈ m.conditions ↔ c ∈ m'.conditions) →
    m.holds request tags = m'.holds request tags

section Tests

variable {key : String} {values : List String} {request : Request} {tags : Registry}

theorem holds_equal_iff : holds ⟨key, .equal, values⟩ request tags ↔
    ∃ v, (tags.told key request).head? = some v ∧ values.head? = some v := by
  change test ⟨key, .equal, values⟩ (tags.told key request) = true ↔ _
  cases tags.told key request with
  | nil => simp [test]
  | cons value _ =>
    cases values with
    | nil => simp [test]
    | cons expected _ => simpa [test] using ⟨Eq.symm, Eq.symm⟩

theorem holds_notEqual_iff : holds ⟨key, .notEqual, values⟩ request tags ↔
    ¬ holds ⟨key, .equal, values⟩ request tags := by
  change test ⟨key, .notEqual, values⟩ (tags.told key request) = true ↔
    ¬ test ⟨key, .equal, values⟩ (tags.told key request) = true
  cases tags.told key request <;> cases values <;> simp [test]

theorem holds_oneOf_iff : holds ⟨key, .oneOf, values⟩ request tags ↔
    ∃ v ∈ tags.told key request, v ∈ values := by
  simp [holds, test, Registry.told]

theorem holds_noneOf_iff : holds ⟨key, .noneOf, values⟩ request tags ↔
    ¬ holds ⟨key, .oneOf, values⟩ request tags := by
  simp [holds, test]

theorem holds_startsWith_iff : holds ⟨key, .startsWith, values⟩ request tags ↔
    ∃ v ∈ tags.told key request, ∃ start ∈ values, start.toList <+: v.toList := by
  simp [holds, test, beginsWith, Registry.told]

theorem holds_oneOf_of_equal (equal : holds ⟨key, .equal, values⟩ request tags) :
    holds ⟨key, .oneOf, values⟩ request tags := by
  obtain ⟨v, first, expected⟩ := holds_equal_iff.1 equal
  exact holds_oneOf_iff.2 ⟨v, List.mem_of_head? first, List.mem_of_head? expected⟩

theorem holds_startsWith_of_oneOf (among : holds ⟨key, .oneOf, values⟩ request tags) :
    holds ⟨key, .startsWith, values⟩ request tags := by
  obtain ⟨v, told, expected⟩ := holds_oneOf_iff.1 among
  exact holds_startsWith_iff.2 ⟨v, told, v, expected, List.prefix_rfl⟩

theorem holds_of_untold (c : Condition)
    (untold : tags.values c.key request = none ∨ tags.values c.key request = some []) :
    c.holds request tags ↔ c.op = .notEqual ∨ c.op = .noneOf := by
  obtain ⟨key, op, values⟩ := c
  have nothing : (tags.values key request).getD [] = [] := by
    rcases untold with none | empty
    · rw [none]; rfl
    · rw [empty]; rfl
  rw [holds, nothing]
  cases op <;> simp [test]

end Tests

section Sets

variable {op : MatchOp} (anyOf : op = .oneOf ∨ op = .startsWith) {key key' : String}
  {values values' : List String} {request request' : Request} {tags tags' : Registry}
include anyOf

theorem holds_mono (told : tags.told key request ⊆ tags'.told key' request')
    (expected : values ⊆ values') (answer : holds ⟨key, op, values⟩ request tags) :
    holds ⟨key', op, values'⟩ request' tags' := by
  rcases anyOf with rfl | rfl
  · obtain ⟨v, there, among⟩ := holds_oneOf_iff.1 answer
    exact holds_oneOf_iff.2 ⟨v, told there, expected among⟩
  · obtain ⟨v, there, start, among, starts⟩ := holds_startsWith_iff.1 answer
    exact holds_startsWith_iff.2 ⟨v, told there, start, expected among, starts⟩

theorem holds_congr (told : ∀ v, v ∈ tags.told key request ↔ v ∈ tags'.told key' request')
    (expected : ∀ v, v ∈ values ↔ v ∈ values') :
    holds ⟨key, op, values⟩ request tags = holds ⟨key', op, values'⟩ request' tags' := by
  rw [Bool.eq_iff_iff]
  constructor
  · exact holds_mono anyOf (fun v => (told v).1) (fun v => (expected v).1)
  · exact holds_mono anyOf (fun v => (told v).2) (fun v => (expected v).2)

end Sets

section Rules

variable {request : Request} {tags : Registry}

theorem rule_holds_iff (m : MethodPolicy) :
    m.holds request tags ↔ ∀ c ∈ m.conditions, c.holds request tags := by
  rw [MethodPolicy.holds, List.all_eq_true]

theorem rule_holds_congr {m m' : MethodPolicy} (same : ∀ c, c ∈ m.conditions ↔ c ∈ m'.conditions) :
    m.holds request tags = m'.holds request tags := by
  rw [Bool.eq_iff_iff, rule_holds_iff, rule_holds_iff]
  simp only [same]

end Rules

theorem conditions_lawful (request : Request) (tags : Registry) : Lawful request tags where
  equal_iff _ _ := holds_equal_iff
  oneOf_iff _ _ := holds_oneOf_iff
  startsWith_iff _ _ := holds_startsWith_iff
  notEqual_iff _ _ := holds_notEqual_iff
  noneOf_iff _ _ := holds_noneOf_iff
  oneOf_of_equal _ _ := holds_oneOf_of_equal
  startsWith_of_oneOf _ _ := holds_startsWith_of_oneOf
  untold := holds_of_untold
  grows _ anyOf _ _ _ _ _ _ := holds_mono anyOf
  sameSets _ anyOf _ _ _ _ _ _ := holds_congr anyOf
  rule_iff := rule_holds_iff
  rule_sameSet _ _ := rule_holds_congr

end Condition

end Governance.Tag
