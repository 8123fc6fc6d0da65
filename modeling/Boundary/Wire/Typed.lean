import Boundary.Wire.Encode
import Boundary.Wire.Decode
/-!
Types whose values cross the boundary.

`ofValue` is only of interest on values of the type's shape; on any other it gives some value.
-/
namespace Boundary

/-- The entries of a map from texts to texts. -/
structure TextMap where
  entries : List (String × String)
  deriving DecidableEq, Repr, Inhabited

class Wire (α : Type) where
  shape : Shape
  toValue : α → Value
  ofValue : Value → α

namespace Wire

/-- The encoding of `a` inside another value. -/
def write [Wire α] (a : α) : Except Oversize Bytes := (toValue a).write

/-- The encoding of `a` as a whole buffer. -/
def lower [Wire α] (a : α) : Except Oversize Bytes := (toValue a).lower

def lift (α : Type) [Wire α] (b : Bytes) : Except CodecError α :=
  ((shape α).lift b).map ofValue

instance : Wire String where
  shape := .text
  toValue := .text
  ofValue
    | .text s => s
    | _ => ""

instance : Wire Bool where
  shape := .bool
  toValue := .bool
  ofValue
    | .bool b => b
    | _ => false

instance : Wire Bytes where
  shape := .bytes
  toValue := .bytes
  ofValue
    | .bytes b => b
    | _ => []

instance : Wire Instant where
  shape := .instant
  toValue := .instant
  ofValue
    | .instant t => t
    | _ => default

instance [Wire α] : Wire (Option α) where
  shape := .option (shape α)
  toValue
    | none => .absent
    | some a => .present (toValue a)
  ofValue
    | .present v => some (ofValue v)
    | _ => none

instance [Wire α] : Wire (List α) where
  shape := .list (shape α)
  toValue as := .list (as.map toValue)
  ofValue
    | .list vs => vs.map ofValue
    | _ => []

instance : Wire TextMap where
  shape := .map .text .text
  toValue m := .map (m.entries.map fun e => (.text e.1, .text e.2))
  ofValue
    | .map entries => ⟨entries.map fun e => (ofValue e.1, ofValue e.2)⟩
    | _ => ⟨[]⟩

end Wire
end Boundary
