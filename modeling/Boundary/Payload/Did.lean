import Boundary.Payload.Document
/-!
DID URLs in parts, and DIDs together with their document and private keys.
-/
namespace Boundary

/-- A DID URL: `uri` is the DID by itself, `url` all of it. -/
structure Did where
  uri : String
  url : String
  method : String
  id : String
  params : Option TextMap
  path : Option String
  query : Option String
  fragment : Option String
  deriving DecidableEq, Repr, Inhabited

namespace Did

/-- The URL points to something inside the document rather than to the DID itself. -/
def isDereferenceable (d : Did) : Bool := d.fragment.isSome || d.path.isSome || d.query.isSome

def head : RecordHead where
  name := "DidData"
  path := "web5_types::did"
  tag := none
  members := [.plain "uri", .plain "url", .plain "method", .plain "id", .plain "params",
    .plain "path", .plain "query", .plain "fragment"]

instance : Wire Did where
  shape := .record head
    [.text, .text, .text, .text, Wire.shape (Option TextMap), Wire.shape (Option String),
      Wire.shape (Option String), Wire.shape (Option String)]
  toValue d := .record none
    [.text d.uri, .text d.url, .text d.method, .text d.id, Wire.toValue d.params,
      Wire.toValue d.path, Wire.toValue d.query, Wire.toValue d.fragment]
  ofValue
    | .record _ [uri, url, method, id, params, path, query, fragment] =>
      ⟨Wire.ofValue uri, Wire.ofValue url, Wire.ofValue method, Wire.ofValue id,
        Wire.ofValue params, Wire.ofValue path, Wire.ofValue query, Wire.ofValue fragment⟩
    | _ => default

end Did

structure PortableDid where
  uri : String
  document : Document
  privateKeys : List Jwk
  deriving DecidableEq, Repr, Inhabited

namespace PortableDid

def head : RecordHead where
  name := "PortableDidData"
  path := "web5_types::did"
  tag := none
  members := [.plain "did_uri", .plain "document", .plain "private_jwks"]

instance : Wire PortableDid where
  shape := .record head [.text, Wire.shape Document, Wire.shape (List Jwk)]
  toValue d := .record none [.text d.uri, Wire.toValue d.document, Wire.toValue d.privateKeys]
  ofValue
    | .record _ [uri, document, privateKeys] =>
      ⟨Wire.ofValue uri, Wire.ofValue document, Wire.ofValue privateKeys⟩
    | _ => default

end PortableDid
end Boundary
