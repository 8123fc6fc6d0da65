import Boundary.Wire.Typed
/-!
The error that a call can be expected to end in: a kind, a variant of that kind and a text.
-/
namespace Boundary

structure DomainError where
  type : String
  variant : String
  msg : String
  deriving DecidableEq, Repr, Inhabited

namespace DomainError

/-- An error of host code that runs inside a callback. -/
def host (variant msg : String) : DomainError := ⟨"HostError", variant, msg⟩

def isOf (e : DomainError) (type variant : String) : Bool := e.type = type && e.variant = variant

def message (e : DomainError) : String :=
  "Error: Type=" ++ e.type ++ ", Variant=" ++ e.variant ++ ", Msg=" ++ e.msg

def head : RecordHead where
  name := "Web5Error"
  path := "web5_types::error"
  tag := some 1
  members := [.plain "type", .plain "variant", .plain "msg"]

instance : Wire DomainError where
  shape := .record head [.text, .text, .text]
  toValue e := .record (some 1) [.text e.type, .text e.variant, .text e.msg]
  ofValue
    | .record _ [type, variant, msg] =>
      ⟨Wire.ofValue type, Wire.ofValue variant, Wire.ofValue msg⟩
    | _ => default

end DomainError
end Boundary
