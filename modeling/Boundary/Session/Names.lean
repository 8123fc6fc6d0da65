import Boundary.Keyed
/-!
Values by name.
-/
namespace Boundary

abbrev Names (α : Type) := Keyed String α

/-- In the order of the names. -/
def Names.sorted (names : Names α) : Names α := names.mergeSort fun a b => a.1 ≤ b.1

def Names.least? (names : Names α) : Option String := names.sorted.head?.map (·.1)

end Boundary
