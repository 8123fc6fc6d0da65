import Boundary.Payload.Credential
import Boundary.Payload.Did
import Boundary.Payload.DomainError
import Boundary.Proofs.Json.Form

/-!
Every payload comes back from its JSON form, as long as its leap seconds end a minute and no key of
its map is there twice.
-/
namespace Boundary
namespace Wire
variable {α : Type} [Wire α]

/-- The value of `a` has the shape of its type and tells `a`. -/
structure Shown (a : α) : Prop where
  holds : ∀ enclosing, Shape.HoldsRegular enclosing (shape α) (toValue a)
  same : ofValue (toValue a) = a

theorem Shown.ofJson?_toJson {a : α} (shown : Shown a) (legible : (shape α).legible = true) :
    ofJson? α (toJson a) = some a := by
  rw [ofJson?, toJson, Shape.ofJson?_toJson (shape α) legible (shown.holds []).holds
    (shown.holds []).regular, Option.map_some, shown.same]

theorem shown_text (s : String) : Shown s := ⟨fun _ => .text s, rfl⟩

theorem shown_bool (b : Bool) : Shown b := ⟨fun _ => .bool b, rfl⟩

theorem shown_instant {t : Instant} (regular : t.Regular) : Shown t :=
  ⟨fun _ => .instant regular, rfl⟩

theorem Shown.option {o : Option α} (each : ∀ a ∈ o, Shown a) : Shown o := by
  cases o with
  | none => exact ⟨fun _ => .absent, rfl⟩
  | some a =>
    have inner := each a rfl
    exact ⟨fun enclosing => .present (inner.holds enclosing), congrArg some inner.same⟩

theorem Shown.list {as : List α} (each : ∀ a ∈ as, Shown a) : Shown as := by
  constructor
  · intro enclosing
    refine .list fun v mem => ?_
    obtain ⟨a, found, rfl⟩ := List.mem_map.1 mem
    exact (each a found).holds enclosing
  · change (as.map toValue).map ofValue = as
    rw [List.map_map]
    exact (List.map_congr_left fun a mem => (each a mem).same).trans (List.map_id as)

theorem shown_textMap {m : TextMap} (distinct : (m.entries.map (·.1)).Nodup) : Shown m := by
  constructor
  · intro enclosing
    have keys : ∀ e ∈ m.entries.map fun e => (Value.text e.1, Value.text e.2),
        Shape.HoldsRegular enclosing .text e.1 ∧ Shape.HoldsRegular enclosing .text e.2 := by
      intro e mem
      obtain ⟨f, -, rfl⟩ := List.mem_map.1 mem
      exact ⟨.text f.1, .text f.2⟩
    refine .map ?_ (fun e mem => (keys e mem).1) fun e mem => (keys e mem).2
    rw [List.map_map]
    exact (List.pairwise_map.1 distinct).map _ fun a b ne same => ne (Value.text.inj same)
  · change TextMap.mk ((m.entries.map fun e => (Value.text e.1, Value.text e.2)).map _) = m
    rw [List.map_map]
    exact congrArg TextMap.mk (List.map_id m.entries)

theorem shown_texts (l : List String) : Shown l := .list fun s _ => shown_text s

theorem shown_text? (o : Option String) : Shown o := .option fun s _ => shown_text s

theorem shown_texts? (o : Option (List String)) : Shown o := .option fun l _ => shown_texts l

theorem shown_instant? {o : Option Instant} (regular : ∀ t ∈ o, t.Regular) : Shown o :=
  .option fun t mem => shown_instant (regular t mem)

theorem shown_domainError (e : DomainError) : Shown e where
  holds enclosing := by
    refine .record (by decide) rfl ?_
    simp only [List.zip_cons_cons, List.zip_nil_right, List.forall_mem_cons]
    exact ⟨.text e.type, .text e.variant, .text e.msg, nofun⟩
  same := rfl

theorem shown_jwk (key : Jwk) : Shown key where
  holds enclosing := by
    refine .record nofun rfl ?_
    simp only [List.zip_cons_cons, List.zip_nil_right, List.forall_mem_cons]
    exact ⟨(shown_text? key.alg).holds _, .text key.kty, .text key.crv, (shown_text? key.d).holds _,
      .text key.x, (shown_text? key.y).holds _, nofun⟩
  same := by
    change Jwk.mk (ofValue (toValue key.alg)) key.kty key.crv (ofValue (toValue key.d)) key.x
      (ofValue (toValue key.y)) = key
    rw [(shown_text? key.alg).same, (shown_text? key.d).same, (shown_text? key.y).same]

theorem shown_algorithm (a : Algorithm) : Shown a where
  holds _ := by
    cases a
    exact .variant (w := ⟨"Ed25519", "Ed25519", 1⟩) (by decide) (by decide)
  same := by cases a; rfl

theorem shown_resolutionError (e : ResolutionError) : Shown e where
  holds enclosing := by
    have named : ∃ v ∈ ResolutionError.head.variants, v.number = e.number := by
      cases e <;> decide
    obtain ⟨v, mem, number⟩ := named
    have small : IntType.i32.Holds v.number := by
      rw [number]
      cases e <;> decide
    change Shape.HoldsRegular enclosing _ (.variant e.number)
    rw [← number]
    exact .variant mem small
  same := by cases e <;> rfl

theorem shown_verificationMethod (m : VerificationMethod) : Shown m where
  holds enclosing := by
    refine .record nofun rfl ?_
    simp only [List.zip_cons_cons, List.zip_nil_right, List.forall_mem_cons]
    exact ⟨.text m.id, .text m.type, .text m.controller, (shown_jwk m.publicKey).holds _, nofun⟩
  same := by
    change VerificationMethod.mk m.id m.type m.controller (ofValue (toValue m.publicKey)) = m
    rw [(shown_jwk m.publicKey).same]

theorem shown_service (s : Service) : Shown s where
  holds enclosing := by
    refine .record nofun rfl ?_
    simp only [List.zip_cons_cons, List.zip_nil_right, List.forall_mem_cons]
    exact ⟨.text s.id, .text s.type, (shown_texts s.endpoints).holds _, nofun⟩
  same := by
    change Service.mk s.id s.type (ofValue (toValue s.endpoints)) = s
    rw [(shown_texts s.endpoints).same]

theorem shown_document (d : Document) : Shown d := by
  have methods : Shown d.verificationMethods := .list fun m _ => shown_verificationMethod m
  have services : Shown d.services := .option fun _ _ => .list fun s _ => shown_service s
  constructor
  · intro enclosing
    refine .record nofun rfl ?_
    simp only [List.zip_cons_cons, List.zip_nil_right, List.forall_mem_cons]
    exact ⟨.text d.id, (shown_texts? d.context).holds _, (shown_texts? d.controller).holds _,
      (shown_texts? d.alsoKnownAs).holds _, methods.holds _,
      (shown_texts? d.authentication).holds _, (shown_texts? d.assertionMethod).holds _,
      (shown_texts? d.keyAgreement).holds _, (shown_texts? d.capabilityInvocation).holds _,
      (shown_texts? d.capabilityDelegation).holds _, services.holds _, nofun⟩
  · change Document.mk d.id (ofValue (toValue d.context)) (ofValue (toValue d.controller))
      (ofValue (toValue d.alsoKnownAs)) (ofValue (toValue d.verificationMethods))
      (ofValue (toValue d.authentication)) (ofValue (toValue d.assertionMethod))
      (ofValue (toValue d.keyAgreement)) (ofValue (toValue d.capabilityInvocation))
      (ofValue (toValue d.capabilityDelegation)) (ofValue (toValue d.services)) = d
    simp only [(shown_texts? _).same, methods.same, services.same]

theorem shown_documentMetadata (m : DocumentMetadata) : Shown m := by
  have deactivated : Shown m.deactivated := .option fun b _ => shown_bool b
  constructor
  · intro enclosing
    refine .record nofun rfl ?_
    simp only [List.zip_cons_cons, List.zip_nil_right, List.forall_mem_cons]
    exact ⟨(shown_text? m.created).holds _, (shown_text? m.updated).holds _, deactivated.holds _,
      (shown_text? m.nextUpdate).holds _, (shown_text? m.versionId).holds _,
      (shown_text? m.nextVersionId).holds _, (shown_texts? m.equivalentId).holds _,
      (shown_text? m.canonicalId).holds _, nofun⟩
  · change DocumentMetadata.mk (ofValue (toValue m.created)) (ofValue (toValue m.updated))
      (ofValue (toValue m.deactivated)) (ofValue (toValue m.nextUpdate))
      (ofValue (toValue m.versionId)) (ofValue (toValue m.nextVersionId))
      (ofValue (toValue m.equivalentId)) (ofValue (toValue m.canonicalId)) = m
    simp only [(shown_text? _).same, (shown_texts? _).same, deactivated.same]

theorem shown_resolutionMetadata (m : ResolutionMetadata) : Shown m := by
  have error : Shown m.error := .option fun e _ => shown_resolutionError e
  constructor
  · intro enclosing
    refine .record nofun rfl ?_
    simp only [List.zip_cons_cons, List.zip_nil_right, List.forall_mem_cons]
    exact ⟨error.holds _, nofun⟩
  · change ResolutionMetadata.mk (ofValue (toValue m.error)) = m
    rw [error.same]

theorem shown_resolution (r : Resolution) : Shown r := by
  have document : Shown r.document := .option fun d _ => shown_document d
  have documentMetadata : Shown r.documentMetadata := .option fun m _ => shown_documentMetadata m
  have metadata := shown_resolutionMetadata r.metadata
  constructor
  · intro enclosing
    refine .record nofun rfl ?_
    simp only [List.zip_cons_cons, List.zip_nil_right, List.forall_mem_cons]
    exact ⟨document.holds _, documentMetadata.holds _, metadata.holds _, nofun⟩
  · change Resolution.mk (ofValue (toValue r.document)) (ofValue (toValue r.documentMetadata))
      (ofValue (toValue r.metadata)) = r
    rw [document.same, documentMetadata.same, metadata.same]

theorem shown_did {d : Did} (distinct : ∀ m ∈ d.params, (m.entries.map (·.1)).Nodup) :
    Shown d := by
  have params : Shown d.params := .option fun m mem => shown_textMap (distinct m mem)
  constructor
  · intro enclosing
    refine .record nofun rfl ?_
    simp only [List.zip_cons_cons, List.zip_nil_right, List.forall_mem_cons]
    exact ⟨.text d.uri, .text d.url, .text d.method, .text d.id, params.holds _,
      (shown_text? d.path).holds _, (shown_text? d.query).holds _,
      (shown_text? d.fragment).holds _, nofun⟩
  · change Did.mk d.uri d.url d.method d.id (ofValue (toValue d.params)) (ofValue (toValue d.path))
      (ofValue (toValue d.query)) (ofValue (toValue d.fragment)) = d
    simp only [(shown_text? _).same, params.same]

theorem shown_portableDid (d : PortableDid) : Shown d := by
  have document := shown_document d.document
  have keys : Shown d.privateKeys := .list fun key _ => shown_jwk key
  constructor
  · intro enclosing
    refine .record nofun rfl ?_
    simp only [List.zip_cons_cons, List.zip_nil_right, List.forall_mem_cons]
    exact ⟨.text d.uri, document.holds _, keys.holds _, nofun⟩
  · change PortableDid.mk d.uri (ofValue (toValue d.document)) (ofValue (toValue d.privateKeys)) = d
    rw [document.same, keys.same]

theorem shown_credential {c : Credential} (issued : c.issued.Regular)
    (expires : ∀ t ∈ c.expires, t.Regular) : Shown c := by
  constructor
  · intro enclosing
    refine .record nofun rfl ?_
    simp only [List.zip_cons_cons, List.zip_nil_right, List.forall_mem_cons]
    exact ⟨(shown_texts c.context).holds _, (shown_texts c.type).holds _, .text c.id,
      .text c.issuer, .text c.subject, .instant issued, (shown_instant? expires).holds _, nofun⟩
  · change Credential.mk (ofValue (toValue c.context)) (ofValue (toValue c.type)) c.id c.issuer
      c.subject c.issued (ofValue (toValue c.expires)) = c
    rw [(shown_texts c.context).same, (shown_texts c.type).same, (shown_instant? expires).same]

theorem shown_credentialOptions {o : CredentialOptions} (issued : ∀ t ∈ o.issued, t.Regular)
    (expires : ∀ t ∈ o.expires, t.Regular) : Shown o := by
  constructor
  · intro enclosing
    refine .record nofun rfl ?_
    simp only [List.zip_cons_cons, List.zip_nil_right, List.forall_mem_cons]
    exact ⟨(shown_text? o.id).holds _, (shown_texts? o.context).holds _,
      (shown_texts? o.type).holds _, (shown_instant? issued).holds _,
      (shown_instant? expires).holds _, nofun⟩
  · change CredentialOptions.mk (ofValue (toValue o.id)) (ofValue (toValue o.context))
      (ofValue (toValue o.type)) (ofValue (toValue o.issued)) (ofValue (toValue o.expires)) = o
    rw [(shown_text? o.id).same, (shown_texts? o.context).same, (shown_texts? o.type).same,
      (shown_instant? issued).same, (shown_instant? expires).same]

/-- Every payload is read back from its JSON form just as it was, whatever its texts, with whatever
options absent, and to the nanosecond, leap seconds at the end of a minute included. -/
theorem json_round_trip :
    (∀ d : Document, ofJson? Document (toJson d) = some d) ∧
    (∀ m : VerificationMethod, ofJson? VerificationMethod (toJson m) = some m) ∧
    (∀ s : Service, ofJson? Service (toJson s) = some s) ∧
    (∀ m : DocumentMetadata, ofJson? DocumentMetadata (toJson m) = some m) ∧
    (∀ m : ResolutionMetadata, ofJson? ResolutionMetadata (toJson m) = some m) ∧
    (∀ e : ResolutionError, ofJson? ResolutionError (toJson e) = some e) ∧
    (∀ r : Resolution, ofJson? Resolution (toJson r) = some r) ∧
    (∀ d : Did, (∀ m ∈ d.params, (m.entries.map (·.1)).Nodup) →
      ofJson? Did (toJson d) = some d) ∧
    (∀ d : PortableDid, ofJson? PortableDid (toJson d) = some d) ∧
    (∀ key : Jwk, ofJson? Jwk (toJson key) = some key) ∧
    (∀ a : Algorithm, ofJson? Algorithm (toJson a) = some a) ∧
    (∀ c : Credential, c.issued.Regular → (∀ t ∈ c.expires, t.Regular) →
      ofJson? Credential (toJson c) = some c) ∧
    (∀ o : CredentialOptions, (∀ t ∈ o.issued, t.Regular) → (∀ t ∈ o.expires, t.Regular) →
      ofJson? CredentialOptions (toJson o) = some o) ∧
    ∀ e : DomainError, ofJson? DomainError (toJson e) = some e := by
  refine ⟨fun d => (shown_document d).ofJson?_toJson (by decide),
    fun m => (shown_verificationMethod m).ofJson?_toJson (by decide),
    fun s => (shown_service s).ofJson?_toJson (by decide),
    fun m => (shown_documentMetadata m).ofJson?_toJson (by decide),
    fun m => (shown_resolutionMetadata m).ofJson?_toJson (by decide),
    fun e => (shown_resolutionError e).ofJson?_toJson (by decide),
    fun r => (shown_resolution r).ofJson?_toJson (by decide),
    fun d distinct => (shown_did distinct).ofJson?_toJson (by decide),
    fun d => (shown_portableDid d).ofJson?_toJson (by decide),
    fun key => (shown_jwk key).ofJson?_toJson (by decide),
    fun a => (shown_algorithm a).ofJson?_toJson (by decide),
    fun c issued expires => (shown_credential issued expires).ofJson?_toJson (by decide),
    fun o issued expires => (shown_credentialOptions issued expires).ofJson?_toJson (by decide),
    fun e => (shown_domainError e).ofJson?_toJson (by decide)⟩

/-- A key may be empty, and the first and the last instant there are come back. -/
theorem json_round_trip_at_the_edges :
    let did : Did := ⟨"did:x:y", "did:x:y?q#", "x", "y", some ⟨[("", "q"), ("q", "")]⟩, none,
      some "q", some ""⟩
    let credential : Credential := ⟨[], [""], "\"", "null", "\\", ⟨Instant.earliest, 0⟩,
      some ⟨Instant.latest, 1999999999⟩⟩
    let options : CredentialOptions := ⟨none, some [], none, some ⟨-1, 1000000000⟩, none⟩
    ((∀ m ∈ did.params, (m.entries.map (·.1)).Nodup) ∧ ofJson? Did (toJson did) = some did) ∧
    (credential.issued.Regular ∧ (∀ t ∈ credential.expires, t.Regular) ∧
      ofJson? Credential (toJson credential) = some credential) ∧
    (∀ t ∈ options.issued, t.Regular) ∧ (∀ t ∈ options.expires, t.Regular) ∧
      ofJson? CredentialOptions (toJson options) = some options := by
  intro did credential options
  obtain ⟨-, -, -, -, -, -, -, dids, -, -, -, credentials, sets, -⟩ := json_round_trip
  have distinct : ∀ m ∈ did.params, (m.entries.map (·.1)).Nodup := by decide
  have first : credential.issued.Regular := by decide
  have last : ∀ t ∈ credential.expires, t.Regular := by decide
  have leap : ∀ t ∈ options.issued, t.Regular := by decide
  exact ⟨⟨distinct, dids did distinct⟩, ⟨first, last, credentials credential first last⟩, leap,
    nofun, sets options leap nofun⟩

theorem toJson_of_same_text (c : Credential) {t : Instant} (same : t.toText = c.issued.toText) :
    toJson { c with issued := t } = toJson c := by
  obtain ⟨context, type, id, issuer, subject, issued, expires⟩ := c
  change t.toText = issued.toText at same
  simp [toJson, Wire.shape, Wire.toValue, Shape.toJson, Credential.head, Shape.membersToJson, same]

/-- Within a minute, a leap second has the text of the second after it, and comes back as that. -/
theorem leap_within_minute_comes_back_later :
    let credential : Credential := ⟨[], [], "", "", "", ⟨4, 1333333333⟩, none⟩
    let later : Credential := { credential with issued := ⟨5, 333333333⟩ }
    credential.issued.Valid ∧ credential.issued.toText = "1970-01-01T00:00:05.333333333Z" ∧
      ofJson? Credential (toJson credential) = some later ∧ later ≠ credential := by
  intro credential later
  have read : ofJson? Credential (toJson later) = some later :=
    (shown_credential (by decide) (by decide)).ofJson?_toJson (by decide)
  have text : credential.issued.toText = later.issued.toText := by decide
  have same : toJson credential = toJson later := toJson_of_same_text later text
  rw [same]
  exact ⟨by decide, by decide, read, by decide⟩

end Wire
end Boundary
