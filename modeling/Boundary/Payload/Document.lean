import Boundary.Payload.Jwk
/-!
DID documents and what resolving a DID came to.
-/
namespace Boundary

structure VerificationMethod where
  id : String
  type : String
  controller : String
  publicKey : Jwk
  deriving DecidableEq, Repr, Inhabited

structure Service where
  id : String
  type : String
  endpoints : List String
  deriving DecidableEq, Repr, Inhabited

structure Document where
  id : String
  context : Option (List String)
  controller : Option (List String)
  alsoKnownAs : Option (List String)
  verificationMethods : List VerificationMethod
  authentication : Option (List String)
  assertionMethod : Option (List String)
  keyAgreement : Option (List String)
  capabilityInvocation : Option (List String)
  capabilityDelegation : Option (List String)
  services : Option (List Service)
  deriving DecidableEq, Repr, Inhabited

/-- The first verification method with the full identifier `id`. -/
def Document.findMethod (d : Document) (id : String) : Option VerificationMethod :=
  d.verificationMethods.find? (·.id = id)

structure DocumentMetadata where
  created : Option String
  updated : Option String
  deactivated : Option Bool
  nextUpdate : Option String
  versionId : Option String
  nextVersionId : Option String
  equivalentId : Option (List String)
  canonicalId : Option String
  deriving DecidableEq, Repr, Inhabited

/-- Why a resolution failed. -/
inductive ResolutionError where
  | invalidDid
  | notFound
  | representationNotSupported
  | methodNotSupported
  | invalidDidDocument
  | invalidPublicKey
  | invalidDidDocumentLength
  | internalError
  deriving DecidableEq, Repr, Inhabited

structure ResolutionMetadata where
  error : Option ResolutionError
  deriving DecidableEq, Repr, Inhabited

structure Resolution where
  document : Option Document
  documentMetadata : Option DocumentMetadata
  metadata : ResolutionMetadata
  deriving DecidableEq, Repr, Inhabited

namespace ResolutionError

def all : List ResolutionError :=
  [.invalidDid, .notFound, .representationNotSupported, .methodNotSupported, .invalidDidDocument,
    .invalidPublicKey, .invalidDidDocumentLength, .internalError]

/-- The name in the registry of resolution errors. -/
def registeredName : ResolutionError → String
  | .invalidDid => "invalidDid"
  | .notFound => "notFound"
  | .representationNotSupported => "representationNotSupported"
  | .methodNotSupported => "methodNotSupported"
  | .invalidDidDocument => "invalidDidDocument"
  | .invalidPublicKey => "invalidPublicKey"
  | .invalidDidDocumentLength => "invalidDidDocumentLength"
  | .internalError => "internalError"

def number : ResolutionError → Int
  | .invalidDid => 1
  | .notFound => 2
  | .representationNotSupported => 3
  | .methodNotSupported => 4
  | .invalidDidDocument => 5
  | .invalidPublicKey => 6
  | .invalidDidDocumentLength => 7
  | .internalError => 8

def parse (s : String) : Except String ResolutionError :=
  match all.find? (·.registeredName = s) with
  | some e => .ok e
  | none => .error ("unknown resolution metadata error: " ++ s)

def head : EnumHead where
  name := "ResolutionMetadataError"
  path := "web5_types::document"
  variants := [
    ⟨"InvalidDid", "invalidDid", 1⟩,
    ⟨"NotFound", "notFound", 2⟩,
    ⟨"RepresentationNotSupported", "representationNotSupported", 3⟩,
    ⟨"MethodNotSupported", "methodNotSupported", 4⟩,
    ⟨"InvalidDidDocument", "invalidDidDocument", 5⟩,
    ⟨"InvalidPublicKey", "invalidPublicKey", 6⟩,
    ⟨"InvalidDidDocumentLength", "invalidDidDocumentLength", 7⟩,
    ⟨"InternalError", "internalError", 8⟩]

instance : Wire ResolutionError where
  shape := .enum head
  toValue e := .variant e.number
  ofValue
    | .variant n => (all.find? (·.number = n)).getD default
    | _ => default

end ResolutionError

namespace Resolution

/-- A failed resolution that carries only its error. -/
def ofError (e : ResolutionError) : Resolution := ⟨none, none, ⟨some e⟩⟩

def isSuccess (r : Resolution) : Bool := r.metadata.error.isNone && r.document.isSome

end Resolution

def VerificationMethod.head : RecordHead where
  name := "VerificationMethodData"
  path := "web5_types::document"
  tag := none
  members := [.plain "id", .plain "type", .plain "controller",
    .keyed "public_key_jwk" "publicKeyJwk"]

instance : Wire VerificationMethod where
  shape := .record VerificationMethod.head [.text, .text, .text, Wire.shape Jwk]
  toValue m := .record none [.text m.id, .text m.type, .text m.controller, Wire.toValue m.publicKey]
  ofValue
    | .record _ [id, type, controller, publicKey] =>
      ⟨Wire.ofValue id, Wire.ofValue type, Wire.ofValue controller, Wire.ofValue publicKey⟩
    | _ => default

def Service.head : RecordHead where
  name := "ServiceData"
  path := "web5_types::document"
  tag := none
  members := [.plain "id", .plain "type", .keyed "service_endpoint" "serviceEndpoint"]

instance : Wire Service where
  shape := .record Service.head [.text, .text, Wire.shape (List String)]
  toValue s := .record none [.text s.id, .text s.type, Wire.toValue s.endpoints]
  ofValue
    | .record _ [id, type, endpoints] =>
      ⟨Wire.ofValue id, Wire.ofValue type, Wire.ofValue endpoints⟩
    | _ => default

def Document.head : RecordHead where
  name := "DocumentData"
  path := "web5_types::document"
  tag := none
  members := [
    .plain "id",
    .keyed "context" "@context",
    .plain "controller",
    .keyed "also_known_as" "alsoKnownAs",
    .keyed "verification_method" "verificationMethod",
    .plain "authentication",
    .keyed "assertion_method" "assertionMethod",
    .keyed "key_agreement" "keyAgreement",
    .keyed "capability_invocation" "capabilityInvocation",
    .keyed "capability_delegation" "capabilityDelegation",
    .plain "service"]

instance : Wire Document where
  shape := .record Document.head
    [.text, Wire.shape (Option (List String)), Wire.shape (Option (List String)),
      Wire.shape (Option (List String)), Wire.shape (List VerificationMethod),
      Wire.shape (Option (List String)), Wire.shape (Option (List String)),
      Wire.shape (Option (List String)), Wire.shape (Option (List String)),
      Wire.shape (Option (List String)), Wire.shape (Option (List Service))]
  toValue d := .record none
    [.text d.id, Wire.toValue d.context, Wire.toValue d.controller, Wire.toValue d.alsoKnownAs,
      Wire.toValue d.verificationMethods, Wire.toValue d.authentication,
      Wire.toValue d.assertionMethod, Wire.toValue d.keyAgreement,
      Wire.toValue d.capabilityInvocation, Wire.toValue d.capabilityDelegation,
      Wire.toValue d.services]
  ofValue
    | .record _ [id, context, controller, alsoKnownAs, methods, authentication, assertion,
        agreement, invocation, delegation, services] =>
      ⟨Wire.ofValue id, Wire.ofValue context, Wire.ofValue controller, Wire.ofValue alsoKnownAs,
        Wire.ofValue methods, Wire.ofValue authentication, Wire.ofValue assertion,
        Wire.ofValue agreement, Wire.ofValue invocation, Wire.ofValue delegation,
        Wire.ofValue services⟩
    | _ => default

def DocumentMetadata.head : RecordHead where
  name := "DocumentMetadataData"
  path := "web5_types::document"
  tag := none
  members := [
    .plain "created",
    .plain "updated",
    .plain "deactivated",
    .keyed "next_update" "nextUpdate",
    .keyed "version_id" "versionId",
    .keyed "next_version_id" "nextVersionId",
    .keyed "equivalent_id" "equivalentId",
    .keyed "canonical_id" "canonicalId"]

instance : Wire DocumentMetadata where
  shape := .record DocumentMetadata.head
    [Wire.shape (Option String), Wire.shape (Option String), Wire.shape (Option Bool),
      Wire.shape (Option String), Wire.shape (Option String), Wire.shape (Option String),
      Wire.shape (Option (List String)), Wire.shape (Option String)]
  toValue m := .record none
    [Wire.toValue m.created, Wire.toValue m.updated, Wire.toValue m.deactivated,
      Wire.toValue m.nextUpdate, Wire.toValue m.versionId, Wire.toValue m.nextVersionId,
      Wire.toValue m.equivalentId, Wire.toValue m.canonicalId]
  ofValue
    | .record _ [created, updated, deactivated, nextUpdate, versionId, nextVersionId, equivalentId,
        canonicalId] =>
      ⟨Wire.ofValue created, Wire.ofValue updated, Wire.ofValue deactivated,
        Wire.ofValue nextUpdate, Wire.ofValue versionId, Wire.ofValue nextVersionId,
        Wire.ofValue equivalentId, Wire.ofValue canonicalId⟩
    | _ => default

def ResolutionMetadata.head : RecordHead where
  name := "ResolutionMetadataData"
  path := "web5_types::document"
  tag := none
  members := [.plain "error"]

instance : Wire ResolutionMetadata where
  shape := .record ResolutionMetadata.head [Wire.shape (Option ResolutionError)]
  toValue m := .record none [Wire.toValue m.error]
  ofValue
    | .record _ [error] => ⟨Wire.ofValue error⟩
    | _ => default

def Resolution.head : RecordHead where
  name := "ResolutionResultData"
  path := "web5_types::document"
  tag := none
  members := [.plain "document", .keyed "document_metadata" "documentMetadata",
    .keyed "resolution_metadata" "resolutionMetadata"]

instance : Wire Resolution where
  shape := .record Resolution.head
    [Wire.shape (Option Document), Wire.shape (Option DocumentMetadata),
      Wire.shape ResolutionMetadata]
  toValue r := .record none
    [Wire.toValue r.document, Wire.toValue r.documentMetadata, Wire.toValue r.metadata]
  ofValue
    | .record _ [document, documentMetadata, metadata] =>
      ⟨Wire.ofValue document, Wire.ofValue documentMetadata, Wire.ofValue metadata⟩
    | _ => default

end Boundary
