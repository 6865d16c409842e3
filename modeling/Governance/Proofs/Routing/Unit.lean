import Governance.Proofs.Routing.Preference

set_option autoImplicit false

namespace Governance.Routing

-- The endpoints of the unit to stay in, only those of the local cell if it counts and has any; all
-- endpoints, if none is in the unit.
def keepToUnit (c : Context) (endpoints : List Endpoint) : List Endpoint :=
  let inUnit := endpoints.filter c.isInUnit
  let inCell := inUnit.filter c.isInCell
  if inUnit = [] then endpoints else if inCell = [] then inUnit else inCell

def Context.CellMisleads (c : Context) (endpoints : List Endpoint) : Prop :=
  endpoints.filter c.isInUnit = [] ∧ endpoints.filter c.isInCell ≠ [] ∧
    endpoints.filter c.isInCell ≠ endpoints

instance (c : Context) (endpoints : List Endpoint) : Decidable (c.CellMisleads endpoints) :=
  inferInstanceAs (Decidable (_ ∧ _ ∧ _))

section Unit

variable {c : Context} {endpoints : List Endpoint}

theorem keepToUnit_of_none (none : endpoints.filter c.isInUnit = []) :
    keepToUnit c endpoints = endpoints := by
  simp [keepToUnit, none]

theorem live_of_some (some : endpoints.filter c.isInUnit ≠ []) :
    live c endpoints = keepToUnit c endpoints := by
  rw [live_eq_prefer, prefer_of_some some, keepToUnit, if_neg some]
  by_cases inCell : (endpoints.filter c.isInUnit).filter c.isInCell = []
  · rw [prefer_of_none inCell, if_pos inCell]
  · rw [prefer_of_some inCell, if_neg inCell]

theorem live_of_none (none : endpoints.filter c.isInUnit = []) :
    live c endpoints = prefer c.isInCell endpoints := by
  rw [live_eq_prefer, prefer_of_none none]

theorem live_of_cellMisleads (misleads : c.CellMisleads endpoints) :
    live c endpoints = endpoints.filter c.isInCell := by
  obtain ⟨none, inCell, -⟩ := misleads
  rw [live_of_none none, prefer_of_some inCell]

theorem live_of_not_cellMisleads (leads : ¬ c.CellMisleads endpoints) :
    live c endpoints = keepToUnit c endpoints := by
  by_cases none : endpoints.filter c.isInUnit = []
  · rw [keepToUnit_of_none none, live_of_none none]
    by_cases inCell : endpoints.filter c.isInCell = []
    · exact prefer_of_none inCell
    · rw [prefer_of_some inCell]
      by_contra some
      exact leads ⟨none, inCell, some⟩
  · exact live_of_some none

end Unit

/-- Calls are kept to their unit as they should be exactly where the local cell does not mislead;
where it does, its namesakes in other units are kept. -/
theorem live_keepsToUnit_iff (c : Context) (endpoints : List Endpoint) :
    (live c endpoints = keepToUnit c endpoints ↔ ¬ c.CellMisleads endpoints) ∧
      live c endpoints =
        if c.CellMisleads endpoints then endpoints.filter c.isInCell
        else keepToUnit c endpoints := by
  by_cases misleads : c.CellMisleads endpoints
  · have kept := live_of_cellMisleads misleads
    refine ⟨iff_of_false ?_ (not_not_intro misleads), by rw [if_pos misleads, kept]⟩
    rw [kept, keepToUnit_of_none misleads.1]
    exact misleads.2.2
  · have kept := live_of_not_cellMisleads misleads
    exact ⟨iff_of_true kept misleads, by rw [if_neg misleads, kept]⟩

def cellCaller : Context :=
  ⟨{ Location.nowhere with unit := some "north", cell := some "blue" }, .plain "svc" none⟩

def southern (host cell : String) : Endpoint :=
  ⟨host, 1, .healthy, (Table.empty.insert "unit" "south").insert "cell" cell⟩

theorem namesake_preferred :
    live cellCaller [southern "g" "green", southern "b" "blue"] = [southern "b" "blue"] ∧
      keepToUnit cellCaller [southern "g" "green", southern "b" "blue"] =
        [southern "g" "green", southern "b" "blue"] := by
  decide

end Governance.Routing
