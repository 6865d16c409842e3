import Mathlib.Algebra.Group.Nat.Defs

set_option autoImplicit false

namespace Governance.Words

def fits? (bits n : Nat) : Option Nat := if n < 2 ^ bits then some n else none

def minus? (a b : Nat) : Option Nat := if b ≤ a then some (a - b) else none

def over? (a b : Nat) : Option Nat := if b = 0 then none else some (a / b)

-- There is nothing between bounds that have changed places.
def clamp? (low high n : Nat) : Option Nat :=
  if low ≤ high then some (max low (min n high)) else none

theorem fits?_of_lt {bits n : Nat} (fits : n < 2 ^ bits) : fits? bits n = some n := if_pos fits

theorem minus?_of_le {a b : Nat} (le : b ≤ a) : minus? a b = some (a - b) := if_pos le

theorem over?_of_ne {b : Nat} (nonzero : b ≠ 0) (a : Nat) : over? a b = some (a / b) :=
  if_neg nonzero

theorem clamp?_of_le {low high n : Nat} (above : low ≤ high) (below : n ≤ high) :
    clamp? low high n = some (max low n) := by
  rw [clamp?, if_pos above, Nat.min_eq_left below]

end Governance.Words
