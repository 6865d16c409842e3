import Governance.Proofs.Policy.History
import Governance.Proofs.Text.Separator

set_option autoImplicit false

namespace Governance

open Governance.Text

def groupSeparator : String := "?group="

theorem groupSeparator_isSeparator : IsSeparator groupSeparator :=
  ⟨'?', "group=".toList, by decide, by decide⟩

theorem inGroup_of_own {group : Option String} {g : String} (own : ownGroup? group = some g)
    (address : String) : inGroup address group = address ++ groupSeparator ++ g := by
  rw [inGroup, own]
  rfl

theorem inGroup_of_none {group : Option String} (none : ownGroup? group = none)
    (address : String) : inGroup address group = address := by
  rw [inGroup, none]

theorem serviceUri_eq (name : String) (group : Option String) :
    serviceUri name group = "service://" ++ inGroup name group := by
  cases own : ownGroup? group with
  | none => rw [serviceUri, inGroup_of_none own, inGroup_of_none own]
  | some g =>
    rw [serviceUri, inGroup_of_own own, inGroup_of_own own, String.append_assoc,
      String.append_assoc, String.append_assoc]

theorem inGroup_eq_of_serviceUri_eq {name other : String} {group otherGroup : Option String}
    (same : serviceUri name group = serviceUri other otherGroup) :
    inGroup name group = inGroup other otherGroup := by
  rw [serviceUri_eq, serviceUri_eq] at same
  apply String.toList_injective
  simpa using congrArg String.toList same

theorem serviceUri_inj {names : Set String} (unambiguous : Unambiguous groupSeparator names)
    {name other : String} {group otherGroup : Option String} (mem : name ∈ names)
    (otherMem : other ∈ names) (same : serviceUri name group = serviceUri other otherGroup) :
    name = other ∧ ownGroup? group = ownGroup? otherGroup := by
  have inGroups := inGroup_eq_of_serviceUri_eq same
  cases own : ownGroup? group with
  | none =>
    cases otherOwn : ownGroup? otherGroup with
    | none =>
      rw [inGroup_of_none own, inGroup_of_none otherOwn] at inGroups
      exact ⟨inGroups, rfl⟩
    | some g =>
      rw [inGroup_of_none own, inGroup_of_own otherOwn] at inGroups
      exact absurd ⟨g, inGroups⟩ (unambiguous other otherMem name mem)
  | some g =>
    cases otherOwn : ownGroup? otherGroup with
    | none =>
      rw [inGroup_of_own own, inGroup_of_none otherOwn] at inGroups
      exact absurd ⟨g, inGroups.symm⟩ (unambiguous name mem other otherMem)
    | some otherG =>
      rw [inGroup_of_own own, inGroup_of_own otherOwn] at inGroups
      obtain ⟨names_eq, rfl⟩ :=
        unambiguous.joined_inj groupSeparator_isSeparator mem otherMem inGroups
      exact ⟨names_eq, rfl⟩

-- A group is one of its own if the separator is in it, since it is not in the default's name.
theorem ownGroup?_joined (first second : String) :
    ownGroup? (some (first ++ groupSeparator ++ second)) =
      some (first ++ groupSeparator ++ second) := by
  have mem : '?' ∈ (first ++ groupSeparator ++ second).toList := by
    rw [toList_joined]
    exact List.mem_append_right _ (List.mem_append_left _ (by decide))
  have notEmpty : first ++ groupSeparator ++ second ≠ "" := by
    intro same
    rw [same] at mem
    exact absurd mem (by decide)
  have notDefault : first ++ groupSeparator ++ second ≠ "default" := by
    intro same
    rw [same] at mem
    exact absurd mem (by decide)
  simp [ownGroup?, notEmpty, notDefault]

-- A name that goes on from another one has an address that is one of the other as well.
theorem exists_serviceUri_eq {short long : String} (goesOn : GoesOn groupSeparator short long) :
    ∃ group otherGroup, serviceUri short group = serviceUri long otherGroup := by
  obtain ⟨more, rfl⟩ := goesOn
  have own : ownGroup? (some "blue") = some "blue" := by decide
  refine ⟨some (more ++ groupSeparator ++ "blue"), some "blue", ?_⟩
  rw [serviceUri_eq, serviceUri_eq, inGroup_of_own (ownGroup?_joined more "blue"),
    inGroup_of_own own]
  simp only [String.append_assoc]

namespace PolicyRegistry

def Change.about? : Change → Option (String × Option String)
  | .publish declared => some (declared.name, declared.group)
  | .remove service group => some (service, group)
  | .setDefaults _ => none

structure Agree (r other : PolicyRegistry) (service : String) (group : Option String) : Prop where
  get : other.get? service group = r.get? service group
  resolve : ∀ (request : Request) (tags : Tag.Registry), request.service = service →
    request.group = group → other.resolve request tags = r.resolve request tags

-- What is published or removed under one of the names leaves every other service of these names,
-- and every other group of the same one, as it is.
def Isolated (names : Set String) : Prop :=
  ∀ (r : PolicyRegistry) (change : Change) (name : String) (declared : Option String),
    change.about? = some (name, declared) → name ∈ names →
    ∀ service ∈ names, ∀ group, ¬ (service = name ∧ ownGroup? group = ownGroup? declared) →
      Agree r (r.apply change) service group

theorem agree_of_get? {r other : PolicyRegistry} {service : String} {group : Option String}
    (same : other.services.get? (serviceUri service group) =
      r.services.get? (serviceUri service group)) : Agree r other service group where
  get := by rw [get?, get?, same]
  resolve request tags := by
    rintro rfl rfl
    simp only [PolicyRegistry.resolve, same]

theorem apply_services_of_ne (r : PolicyRegistry) {change : Change} {name key : String}
    {declared : Option String} (about : change.about? = some (name, declared))
    (other : key ≠ serviceUri name declared) :
    (r.apply change).services.get? key = r.services.get? key := by
  cases change with
  | setDefaults defaults => cases about
  | publish policy =>
    cases about
    simp only [apply, publish, ServicePolicy.key, Table.get?_insert, if_neg other]
  | remove service group =>
    cases about
    simp only [apply, remove, Table.get?_erase, if_neg other]

theorem isolated_of_unambiguous {names : Set String}
    (unambiguous : Unambiguous groupSeparator names) : Isolated names := by
  intro r change name declared about mem service serviceMem group different
  refine agree_of_get? (apply_services_of_ne r about fun same => different ?_)
  exact serviceUri_inj unambiguous serviceMem mem same

-- What is published for the short name in some group is found under the long one.
theorem unambiguous_of_isolated {names : Set String} (isolated : Isolated names) :
    Unambiguous groupSeparator names := by
  intro short shortMem long longMem goesOn
  obtain ⟨group, otherGroup, same⟩ := exists_serviceUri_eq goesOn
  have different := ne_of_goesOn groupSeparator_isSeparator goesOn
  let policy : ServicePolicy := ⟨short, group, .new, .unset, []⟩
  have agree := isolated empty (.publish policy) short group rfl shortMem long longMem otherGroup
    (fun both => different both.1)
  have found := get?_publish empty policy
  have get := agree.get
  rw [apply, get?, ← same, ← get?, found] at get
  cases get

theorem isolated_iff (names : Set String) :
    Isolated names ↔ Unambiguous groupSeparator names :=
  ⟨unambiguous_of_isolated, isolated_of_unambiguous⟩

def lookalike : ServicePolicy := .new "order?group=gray"

theorem lookalike_found :
    lookalike.name ≠ "order" ∧
      empty.get? "order" (some "gray") = none ∧
      ((empty.publish lookalike).get? "order" (some "gray")).map (·.name) =
        some "order?group=gray" ∧
      (empty.resolve { Request.plain "order" none with group := some "gray" } .empty).isOk = false ∧
      ((empty.publish lookalike).resolve
        { Request.plain "order" none with group := some "gray" } .empty).isOk := by
  decide +kernel

end PolicyRegistry

end Governance
