import Boundary.Wire.Typed
/-!
Verifiable credentials. Issuer and subject are carried as JSON texts, which nothing here reads.
-/
namespace Boundary

structure Credential where
  context : List String
  type : List String
  id : String
  issuer : String
  subject : String
  issued : Instant
  expires : Option Instant
  deriving DecidableEq, Repr, Inhabited

namespace Credential

/-- There is an expiration date, and `now` is not before it. -/
def isExpiredAt (c : Credential) (now : Instant) : Bool := c.expires.any (· ≤ now)

def head : RecordHead where
  name := "VerifiableCredentialData"
  path := "web5_types::credential"
  tag := none
  members := [.plain "context", .plain "type", .plain "id", .plain "json_serialized_issuer",
    .plain "json_serialized_credential_subject", .plain "issuance_date", .plain "expiration_date"]

instance : Wire Credential where
  shape := .record head
    [Wire.shape (List String), Wire.shape (List String), .text, .text, .text, .instant,
      Wire.shape (Option Instant)]
  toValue c := .record none
    [Wire.toValue c.context, Wire.toValue c.type, .text c.id, .text c.issuer, .text c.subject,
      .instant c.issued, Wire.toValue c.expires]
  ofValue
    | .record _ [context, type, id, issuer, subject, issued, expires] =>
      ⟨Wire.ofValue context, Wire.ofValue type, Wire.ofValue id, Wire.ofValue issuer,
        Wire.ofValue subject, Wire.ofValue issued, Wire.ofValue expires⟩
    | _ => default

end Credential

/-- What to put into a new credential in place of the usual. -/
structure CredentialOptions where
  id : Option String
  context : Option (List String)
  type : Option (List String)
  issued : Option Instant
  expires : Option Instant
  deriving DecidableEq, Repr, Inhabited

namespace CredentialOptions

def head : RecordHead where
  name := "VerifiableCredentialCreateOptionsData"
  path := "web5_types::credential"
  tag := none
  members := [.plain "id", .plain "context", .plain "type", .plain "issuance_date",
    .plain "expiration_date"]

instance : Wire CredentialOptions where
  shape := .record head
    [Wire.shape (Option String), Wire.shape (Option (List String)),
      Wire.shape (Option (List String)), Wire.shape (Option Instant),
      Wire.shape (Option Instant)]
  toValue o := .record none
    [Wire.toValue o.id, Wire.toValue o.context, Wire.toValue o.type, Wire.toValue o.issued,
      Wire.toValue o.expires]
  ofValue
    | .record _ [id, context, type, issued, expires] =>
      ⟨Wire.ofValue id, Wire.ofValue context, Wire.ofValue type, Wire.ofValue issued,
        Wire.ofValue expires⟩
    | _ => default

end CredentialOptions
end Boundary
