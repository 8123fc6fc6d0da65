import Boundary.Payload.Jwk
/-!
Thumbprints of keys: a digest of the public members that every key has to have.
-/
namespace Boundary

/-- The digest FNV-1a in 64 bits. -/
def Bytes.digest (b : Bytes) : UInt64 :=
  b.foldl (fun h x => (h ^^^ x.toUInt64) * 0x100000001b3) 0xcbf29ce484222325

/-- All 16 digits of a word in base 16, in lower case. -/
def wordText (n : UInt64) : List Char :=
  (List.range 16).map fun i => Nat.digitChar (n.toNat / Nat.pow 16 (15 - i) % 16)

namespace Jwk

/-- A member of the canonical text. Nothing in it is escaped. -/
def canonicalMember (name text : String) : String := "\"" ++ name ++ "\":\"" ++ text ++ "\""

/-- The required members in the order of their names. -/
def canonicalText (key : Jwk) : String :=
  let members := [canonicalMember "crv" key.crv, canonicalMember "kty" key.kty,
    canonicalMember "x" key.x] ++ (key.y.map (canonicalMember "y")).toList
  "\x7b" ++ ",".intercalate members ++ "\x7d"

def thumbprint (key : Jwk) : String :=
  String.ofList (wordText (Bytes.ofText key.canonicalText).digest)

end Jwk
end Boundary
