import Boundary.Wire.Typed
/-!
JSON Web Keys and the signature algorithms they are used with.
-/
namespace Boundary

/-- A key as it is carried across the boundary. Its members are opaque texts; `d` is the private
part. -/
structure Jwk where
  alg : Option String
  kty : String
  crv : String
  d : Option String
  x : String
  y : Option String
  deriving DecidableEq, Repr, Inhabited

namespace Jwk

def isPrivate (key : Jwk) : Bool := key.d.isSome

def toPublic (key : Jwk) : Jwk := { key with d := none }

def head : RecordHead where
  name := "JwkData"
  path := "web5_types::jwk"
  tag := none
  members := [.optional "alg", .plain "kty", .plain "crv", .optional "d", .plain "x", .optional "y"]

instance : Wire Jwk where
  shape := .record head
    [Wire.shape (Option String), .text, .text, Wire.shape (Option String), .text,
      Wire.shape (Option String)]
  toValue key := .record none
    [Wire.toValue key.alg, .text key.kty, .text key.crv, Wire.toValue key.d, .text key.x,
      Wire.toValue key.y]
  ofValue
    | .record _ [alg, kty, crv, d, x, y] =>
      ⟨Wire.ofValue alg, Wire.ofValue kty, Wire.ofValue crv, Wire.ofValue d, Wire.ofValue x,
        Wire.ofValue y⟩
    | _ => default

end Jwk

inductive Algorithm where
  | ed25519
  deriving DecidableEq, Repr, Inhabited

namespace Algorithm

def name : Algorithm → String
  | .ed25519 => "Ed25519"

/-- The algorithm that a text names, in any case. -/
def parse (s : String) : Except String Algorithm :=
  if s.toList.map Char.toLower = "ed25519".toList then .ok .ed25519
  else .error ("unsupported signature algorithm: " ++ s)

def head : EnumHead where
  name := "Dsa"
  path := "web5_types::jwk"
  variants := [⟨"Ed25519", "Ed25519", 1⟩]

instance : Wire Algorithm where
  shape := .enum head
  toValue
    | .ed25519 => .variant 1
  ofValue _ := .ed25519

end Algorithm
end Boundary
