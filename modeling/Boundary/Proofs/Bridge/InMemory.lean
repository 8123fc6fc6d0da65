import Boundary.Proofs.Bridge.Withdrawn
/-!
Key managers with keys of their own. Such a key manager is nothing but a store of keys: an import
puts a key there, unless it is not private, and a signer that is given out has the key that was the
last one in at that time. It does not look at the store again.
-/
namespace Boundary
open Run Process
variable {H : Type}

namespace Jwk

/-- There is something to sign with. -/
def CanSign (key : Jwk) : Prop := ∃ secret, key.d = some secret ∧ secret ≠ ""

theorem canSign_iff (key : Jwk) : key.CanSign ↔ key.secret.isEmpty = false := by
  obtain ⟨alg, kty, crv, d, x, y⟩ := key
  unfold CanSign secret
  cases d with
  | none => simp [Bytes.ofText]
  | some text =>
    by_cases blank : text = ""
    · subst blank
      simp [Bytes.ofText]
    · simp [blank, Entry.ofText_ne_nil blank]

end Jwk

/-- The last one of the keys with this `x`. -/
def latest (x : String) (imports : List Jwk) : Option Jwk := (imports.filter (·.x = x)).getLast?

theorem latest_snoc (x : String) (imports : List Jwk) (key : Jwk) :
    latest x (imports ++ [key]) = if x = key.x then some key else latest x imports := by
  unfold latest
  rw [List.filter_append]
  by_cases same : x = key.x
  · simp [same]
  · simp [same, Ne.symm same]

theorem latest_mem {x : String} {imports : List Jwk} {key : Jwk}
    (last : latest x imports = some key) : key ∈ imports ∧ key.x = x := by
  have mem := List.mem_of_getLast? last
  simpa using mem

theorem latest_eq_none_iff {x : String} {imports : List Jwk} :
    latest x imports = none ↔ ∀ key ∈ imports, key.x ≠ x := by
  simp [latest]

/-- Each byte is combined with the next one of the secret, which starts again at its end. -/
def Masks (secret payload signature : Bytes) : Prop :=
  signature.length = payload.length ∧ ∀ i (inside : i < payload.length),
    signature[i]? = some (payload[i] ^^^ secret.getD (i % secret.length) 0)

theorem masks_scramble {secret : Bytes} (some : secret.isEmpty = false) (payload : Bytes) :
    Masks secret payload (scramble secret payload) := by
  unfold scramble
  rw [some, if_neg Bool.false_ne_true]
  exact ⟨List.length_mapIdx, fun i inside => by simp [inside]⟩

/-! ### Arguments and answers -/

/-- Without its private part, a key takes no more room. -/
theorem length_encode_toPublic (key : Jwk) :
    (Wire.toValue key.toPublic).encode.length ≤ (Wire.toValue key).encode.length := by
  have flag : 1 ≤ (Wire.toValue key.d).encode.length := by
    cases key.d <;> simp [Wire.toValue, Value.encode]
  simp only [Jwk.toPublic, Wire.toValue, Value.encode, Value.encodeAll, List.length_append,
    List.length_singleton] at flag ⊢
  omega

theorem encoding_toPublic {key : Jwk} (crosses : Wire.Crosses key) :
    ∃ made, Buffer.encoding key.toPublic = .ok made := by
  obtain ⟨b, written, short⟩ := crosses
  have fits : (Wire.toValue key).oversize? = none := Value.fits_of_write written
  have whole : b = (Wire.toValue key).encode :=
    Except.ok.inj (written.symm.trans (Value.write_of_fits fits))
  have parts := Value.anyOversize?_eq_none_iff.1 fits
  have shown : (Wire.toValue key.toPublic).oversize? = none := by
    refine Value.anyOversize?_eq_none_iff.2 ?_
    simp only [List.forall_mem_cons] at parts ⊢
    exact ⟨parts.1, parts.2.1, parts.2.2.1, rfl, parts.2.2.2.2⟩
  have lowered : Wire.lower key.toPublic = .ok (Wire.toValue key.toPublic).encode :=
    Value.write_of_fits shown
  rw [whole] at short
  exact ⟨_, Buffer.encoding_of_short lowered ((length_encode_toPublic key).trans short)⟩

/-! ### Objects and their handles -/

namespace Process

/-- The handle stands for the object, and no call is in flight. -/
structure Owns (id : HandleId) (o : ResidentObject) (p : Process H) : Prop where
  owned : id < p.handles.length
  intact : (p.handle id).destroyed = false
  idle : (p.handle id).counter = 0
  made : (p.handle id).address ≤ p.objects.lastAddress
  object : p.objects.get? (p.handle id).address = some o

def replacing (address : Nat) (o : ResidentObject) (p : Process H) : Process H :=
  { p with objects := p.objects.replace address o }

section
variable {id other : HandleId} {o o' : ResidentObject} {p : Process H}

theorem Owns.callable (owns : Owns id o p) : Callable id p := by
  refine ⟨owns.owned, owns.intact, ?_⟩
  rw [owns.idle]
  decide

theorem owns_making (kind : Capability) (o : ResidentObject) (p : Process H) :
    Owns p.handles.length o (p.making kind o) := by
  have handle := handle_making kind o p
  refine ⟨by simp [making], ?_, ?_, ?_, ?_⟩
  all_goals rw [handle]
  · exact Nat.le_refl _
  · simp [making]

theorem Owns.making (owns : Owns id o p) (kind : Capability) (o' : ResidentObject) :
    Owns id o (p.making kind o') := by
  have handle := handle_making_of_lt kind o' owns.owned
  have made := owns.made
  refine ⟨?_, ?_, ?_, ?_, ?_⟩
  · exact Nat.lt_of_lt_of_le owns.owned (by simp [Process.making])
  all_goals rw [handle]
  · exact owns.intact
  · exact owns.idle
  · exact Nat.le_succ_of_le made
  · have older : (p.handle id).address ≠ p.objects.lastAddress + 1 := by omega
    simp only [Process.making, ResidentObjects.get?_add, if_neg older]
    exact owns.object

theorem Owns.replacing (owns : Owns id o p) (o' : ResidentObject) :
    Owns id o' (p.replacing (p.handle id).address o') := by
  refine ⟨owns.owned, owns.intact, owns.idle, owns.made, ?_⟩
  change (p.objects.replace _ _).get? (p.handle id).address = _
  rw [ResidentObjects.get?_replace, if_pos rfl]

/-- What has another object stands elsewhere. -/
theorem Owns.address_ne (owns : Owns id o p) (others : Owns other o' p) (apart : o ≠ o') :
    (p.handle other).address ≠ (p.handle id).address := by
  intro same
  have both := others.object
  rw [same, owns.object] at both
  exact apart (Option.some.inj both)

theorem Owns.replacing_other (others : Owns other o' p) {address : Nat}
    (elsewhere : (p.handle other).address ≠ address) (o : ResidentObject) :
    Owns other o' (p.replacing address o) := by
  refine ⟨others.owned, others.intact, others.idle, others.made, ?_⟩
  change (p.objects.replace _ _).get? (p.handle other).address = _
  rw [ResidentObjects.get?_replace, if_neg elsewhere]
  exact others.object

/-- The end of an object is nothing to the others. -/
theorem Owns.ending (owns : Owns id o p) (others : Owns other o' p) (apart : o ≠ o') :
    Owns other o' (removing (p.handle id).address (givenUp id p)) := by
  have elsewhere := owns.address_ne others apart
  have handle : (removing (p.handle id).address (givenUp id p)).handle other = p.handle other := by
    have ids : other ≠ id := fun same => elsewhere (same ▸ rfl)
    exact handle_set_of_ne ids _ p
  refine ⟨?_, ?_, ?_, ?_, ?_⟩
  · simp only [removing, givenUp, List.length_set]
    exact others.owned
  all_goals rw [handle]
  · exact others.intact
  · exact others.idle
  · exact others.made
  · simp only [removing, givenUp, ResidentObjects.get?_remove, if_neg elsewhere]
    exact others.object

theorem counting_making (owned : id < p.handles.length) (d : Int) (kind : Capability)
    (o : ResidentObject) : (p.counting id d).making kind o = (p.making kind o).counting id d := by
  have handle := handle_making_of_lt kind o owned
  unfold counting
  rw [handle]
  simp only [Process.making, List.set_append_left _ _ owned]

end
end Process

/-! ### Methods of key managers and signers with keys of their own -/

section
variable {host : Host H} {id : HandleId} {p q t : Process H} {address : Nat} {buffer : Buffer}
  {key : Jwk} {keys : KeyStore} {payload : Bytes}

/-- A method whose object has an answer: what the answer leaves is what the method leaves. -/
theorem method_of_answered {α β γ : Type} [Wire α] {kind : Capability}
    (faithful : Wire.Faithful α) {a : α} (crosses : Wire.Crosses a) (callable : Callable id p)
    {entry : Nat → Buffer → Run (Process H) (Reply β)} {finish : β → Run (Process H) γ}
    {placeholder : β} {body : Buffer → Run (Process H) (Except DomainError β)} {b : β} {c : γ}
    (entered : ∀ buffer,
      entry (p.handle id).address buffer = Entry.enter placeholder (body buffer))
    (answered : ∀ buffer, Wire.lift α buffer.content = .ok a →
      body buffer (p.counting id 1) = .ok (.ok b) t)
    (finished : finish b t = .ok c (q.counting id 1)) (still : Callable id q) :
    host.library.method kind id entry a finish p = .ok (.ok c) q := by
  obtain ⟨buffer, readable, method⟩ :=
    Library.method_of_callable host kind faithful crosses callable entry finish
  have answer : host.library.respond (entry (p.handle id).address buffer) finish
      (p.counting id 1) = .ok (.ok c) (q.counting id 1) := by
    rw [entered buffer, Library.respond_ok host finish (answered buffer readable), bind_eq,
      finished]
    rfl
  exact method.trans (ensuring_of_ok answer (release_counting _ kind still))

def missingPrivateKey : DomainError :=
  ⟨"Jwk", "MissingPrivateKey", "private key material (d) must be present"⟩

theorem importBody_of_canSign (object : q.objects.get? address = some (.keyManager (.own keys)))
    (readable : Wire.lift Jwk buffer.content = .ok key) (able : key.CanSign) {made : Buffer}
    (encoded : Buffer.encoding key.toPublic = .ok made) :
    Resident.importBody host address buffer q =
      .ok (.ok made) (q.replacing address (.keyManager (.own (keys.put key)))) := by
  have imported : keys.importKey key = .ok (key.toPublic, keys.put key) := by
    unfold KeyStore.importKey
    rw [key.canSign_iff.1 able, if_neg Bool.false_ne_true]
  have stored : Resident.importKey host address key (.own keys) q =
      .ok (.ok key.toPublic) (q.replacing address (.keyManager (.own (keys.put key)))) := by
    dsimp only [Resident.importKey]
    rw [imported]
    rfl
  unfold Resident.importBody
  rw [bind_eq, Resident.keyManagerAt_eq object]
  dsimp only
  rw [bind_eq, Resident.argument_eq readable]
  dsimp only
  rw [bind_eq, stored]
  dsimp only [Entry.result]
  rw [encoded]
  rfl

theorem importBody_of_missing (object : q.objects.get? address = some (.keyManager (.own keys)))
    (readable : Wire.lift Jwk buffer.content = .ok key) (missing : ¬ key.CanSign) :
    Resident.importBody host address buffer q = .ok (.error missingPrivateKey) q := by
  have refused : keys.importKey key = .error missingPrivateKey := by
    unfold KeyStore.importKey
    rw [if_pos]
    · rfl
    · simpa [key.canSign_iff] using missing
  unfold Resident.importBody
  rw [bind_eq, Resident.keyManagerAt_eq object]
  dsimp only
  rw [bind_eq, Resident.argument_eq readable]
  dsimp only [Resident.importKey]
  rw [refused]
  rfl

theorem signerBody_of_found {found : Jwk}
    (object : q.objects.get? address = some (.keyManager (.own keys)))
    (readable : Wire.lift Jwk buffer.content = .ok key) (stored : keys.get? key.x = some found) :
    Resident.signerBody host address buffer q = .ok (.ok (q.objects.lastAddress + 1))
      { q with objects := (q.objects.add (.signer (.own found))).2 } := by
  unfold Resident.signerBody
  rw [bind_eq, Resident.keyManagerAt_eq object]
  dsimp only
  rw [bind_eq, Resident.argument_eq readable]
  dsimp only [Resident.signerFor]
  unfold KeyStore.signerFor
  rw [stored]
  rfl

def notFound (key : Jwk) : DomainError :=
  ⟨"KeyManager", "NotFound", "no private key for x=" ++ key.x⟩

theorem signerBody_of_none (object : q.objects.get? address = some (.keyManager (.own keys)))
    (readable : Wire.lift Jwk buffer.content = .ok key) (unknown : keys.get? key.x = none) :
    Resident.signerBody host address buffer q = .ok (.error (notFound key)) q := by
  unfold Resident.signerBody
  rw [bind_eq, Resident.keyManagerAt_eq object]
  dsimp only
  rw [bind_eq, Resident.argument_eq readable]
  dsimp only [Resident.signerFor]
  unfold KeyStore.signerFor
  rw [unknown]
  rfl

theorem signBody_own (object : q.objects.get? address = some (.signer (.own key)))
    (readable : Wire.lift Bytes buffer.content = .ok payload) {made : Buffer}
    (encoded : Buffer.encoding (scramble key.secret payload) = .ok made) :
    Resident.signBody host address buffer q = .ok (.ok made) q := by
  unfold Resident.signBody
  rw [bind_eq, Resident.signerAt_eq object]
  dsimp only
  rw [bind_eq, Resident.argument_eq readable]
  dsimp only [Resident.sign, Entry.result]
  rw [bind_eq]
  dsimp only [pure, EStateM.pure]
  rw [encoded]
  rfl

theorem importKey_of_owns (host : Host H) (owns : Owns id (.keyManager (.own keys)) p)
    (crosses : Wire.Crosses key) (able : key.CanSign) :
    host.library.importKey id key p =
      .ok (.ok key.toPublic)
        (p.replacing (p.handle id).address (.keyManager (.own (keys.put key)))) := by
  obtain ⟨made, encoded⟩ := encoding_toPublic crosses
  have still := (owns.replacing (.keyManager (.own (keys.put key)))).callable
  have object : (p.counting id 1).objects.get? (p.handle id).address =
      some (.keyManager (.own keys)) := owns.object
  exact method_of_answered Wire.faithful_jwk crosses owns.callable
    (fun buffer => Resident.importKey_eq_enter host _ buffer)
    (fun buffer readable => importBody_of_canSign object readable able encoded)
    (Library.liftResult_eq host Wire.faithful_jwk encoded _) still

theorem importKey_of_missing (host : Host H) (owns : Owns id (.keyManager (.own keys)) p)
    (crosses : Wire.Crosses key) (missing : ¬ key.CanSign) :
    host.library.importKey id key p = .ok (.error missingPrivateKey) p := by
  obtain ⟨made, encoded⟩ : ∃ made, Buffer.encoding missingPrivateKey = .ok made :=
    ⟨_, Buffer.encoding_of_short rfl (by decide)⟩
  exact method_of_refused Wire.faithful_jwk crosses owns.callable encoded
    (fun buffer => Resident.importKey_eq_enter host _ buffer)
    (fun buffer readable => importBody_of_missing owns.object readable missing)

theorem signerFor_of_found (host : Host H) (owns : Owns id (.keyManager (.own keys)) p)
    (crosses : Wire.Crosses key) {found : Jwk} (stored : keys.get? key.x = some found) :
    host.library.signerFor id key p =
      .ok (.ok p.handles.length) (p.making .signer (.signer (.own found))) := by
  have still := (owns.making .signer (.signer (.own found))).callable
  have object : (p.counting id 1).objects.get? (p.handle id).address =
      some (.keyManager (.own keys)) := owns.object
  have length : (p.counting id 1).handles.length = p.handles.length := List.length_set ..
  have adopted := Library.adopt_making .signer (.signer (.own found)) (p.counting id 1)
  rw [length, counting_making owns.owned] at adopted
  exact method_of_answered Wire.faithful_jwk crosses owns.callable
    (fun buffer => Resident.signerFor_eq_enter host _ buffer)
    (fun buffer readable => signerBody_of_found object readable stored) adopted still

/-- Only a refusal comes of an unknown key. If it cannot be written, nothing does. -/
theorem signerFor_of_none (host : Host H) (owns : Owns id (.keyManager (.own keys)) p)
    (crosses : Wire.Crosses key) (unknown : keys.get? key.x = none)
    (ended : Ends (host.library.signerFor id key) p t) :
    host.library.signerFor id key p = .ok (.error (notFound key)) p := by
  have object : (p.counting id 1).objects.get? (p.handle id).address =
      some (.keyManager (.own keys)) := owns.object
  cases encoded : Buffer.encoding (notFound key) with
  | ok made =>
    exact method_of_refused Wire.faithful_jwk crosses owns.callable encoded
      (fun buffer => Resident.signerFor_eq_enter host _ buffer)
      (fun buffer readable => signerBody_of_none object readable unknown)
  | error f =>
    exfalso
    obtain ⟨buffer, readable, method⟩ := Library.method_of_callable host .keyManager
      Wire.faithful_jwk crosses owns.callable host.library.keyManager.signerFor fun address =>
        adopt .signer ⟨.signer, address⟩
    have refused : Resident.signerBody host (p.handle id).address buffer (p.counting id 1) =
        .ok (.error (notFound key)) (p.counting id 1) :=
      signerBody_of_none object readable unknown
    obtain ⟨u, responded, -⟩ := ends_ensuring (ends_congr method ended)
    refine responded.2 ?_
    unfold answer Library.respond
    rw [bind_eq, Resident.signerFor_eq_enter, (Library.enter_error_without refused encoded).1]

theorem sign_of_owns (host : Host H) (owns : Owns id (.signer (.own key)) p)
    (able : key.CanSign) (crosses : Wire.Crosses payload) :
    host.library.sign id payload p = .ok (.ok (scramble key.secret payload)) p := by
  obtain ⟨made, encoded⟩ : ∃ made, Buffer.encoding (scramble key.secret payload) = .ok made := by
    obtain ⟨b, written, -⟩ := crosses
    refine exists_encoding_of_le ?_
    rw [(masks_scramble (key.canSign_iff.1 able) payload).1]
    exact Value.tooLong?_eq_none_iff.1 (Value.fits_of_write written)
  have object : (p.counting id 1).objects.get? (p.handle id).address = some (.signer (.own key)) :=
    owns.object
  exact method_of_answered Wire.faithful_bytes crosses owns.callable
    (fun buffer => Resident.sign_eq_enter host _ buffer)
    (fun buffer readable => signBody_own object readable encoded)
    (Library.liftResult_eq host Wire.faithful_bytes encoded _) owns.callable

/-- Such an object ends by being taken away. -/
theorem destroy_of_owns (host : Host H) (owns : Owns id (.keyManager (.own keys)) p)
    (kind : Capability) :
    host.library.destroy kind id p =
      .ok () (removing (p.handle id).address (givenUp id p)) := by
  have finish := Handle.Place.finish_eq (host.library.place kind id) p Handle.destroy
  have read : (host.library.place kind id).read p = p.handle id := rfl
  have last : (p.handle id).destroy = (.free (p.handle id).address,
      { p.handle id with counter := (p.handle id).counter - 1, destroyed := true }) := by
    unfold Handle.destroy
    rw [owns.intact, owns.idle]
    rfl
  have object : (givenUp id p).objects.get? (p.handle id).address =
      some (.keyManager (.own keys)) := owns.object
  have freed : (do return .ok (← Resident.free host (p.handle id).address) :
      Run (Process H) (Except DomainError Unit)) (givenUp id p) =
        .ok (.ok ()) (removing (p.handle id).address (givenUp id p)) := by
    unfold Resident.free Resident.take
    rw [bind_eq, bind_eq, bind_get, object]
    rfl
  rw [read, last] at finish
  refine finish.trans ?_
  cases kind
  all_goals exact (Library.enter_ok (Library.quiet_library host) () freed).2

end

/-! ### What a key manager was used for -/

/-- A signer with the `x` that it was asked for, and the imports up to then. -/
structure Issue where
  signer : HandleId
  x : String
  imports : List Jwk

/-- The keys whose import succeeded, in order, and the signers that were given out. -/
structure Past where
  imports : List Jwk
  issued : List Issue

/-- `Used host id start past p`: from `start` on, the key manager `id` and the signers it has given
were used, which has led to `p`. -/
inductive Used (host : Host H) (id : HandleId) (start : Process H) : Past → Process H → Prop
  | start : Used host id start ⟨[], []⟩ start
  | imported {past p q key shown} (earlier : Used host id start past p)
    (done : host.library.importKey id key p = .ok (.ok shown) q) :
    Used host id start { past with imports := past.imports ++ [key] } q
  | refused {past p q key} (earlier : Used host id start past p)
    (ended : Ends (host.library.importKey id key) p q)
    (failed : ∀ shown, host.library.importKey id key p ≠ .ok (.ok shown) q) :
    Used host id start past q
  | given {past p q key signer} (earlier : Used host id start past p)
    (done : host.library.signerFor id key p = .ok (.ok signer) q) :
    Used host id start { past with issued := past.issued ++ [⟨signer, key.x, past.imports⟩] } q
  | denied {past p q key} (earlier : Used host id start past p)
    (ended : Ends (host.library.signerFor id key) p q)
    (failed : ∀ signer, host.library.signerFor id key p ≠ .ok (.ok signer) q) :
    Used host id start past q
  | signed {past p q payload} {i : Issue} (earlier : Used host id start past p)
    (issued : i ∈ past.issued) (ended : Ends (host.library.sign i.signer payload) p q) :
    Used host id start past q
  | destroyed {past p q} (earlier : Used host id start past p)
    (ended : Ends (host.library.destroy .keyManager id) p q) : Used host id start past q

/-- The manager and its signers have the keys that they should. -/
structure Stocked (id : HandleId) (past : Past) (p : Process H) : Prop where
  manager : (id < p.handles.length ∧ (p.handle id).destroyed = true) ∨
    ∃ keys, Owns id (.keyManager (.own keys)) p ∧ ∀ x, keys.get? x = latest x past.imports
  signers : ∀ i ∈ past.issued, ∃ key, latest i.x i.imports = some key ∧ key.CanSign ∧
    Owns i.signer (.signer (.own key)) p
  able : ∀ key ∈ past.imports, key.CanSign

section
variable {host : Host H} {id : HandleId} {p q : Process H} {past : Past} {key : Jwk}
  {keys : KeyStore}

theorem Stocked.imported (stocked : Stocked id past p) {shown : Jwk}
    (done : host.library.importKey id key p = .ok (.ok shown) q) :
    Stocked id { past with imports := past.imports ++ [key] } q := by
  rcases stocked.manager with ⟨-, given⟩ | ⟨keys, owns, stored⟩
  · have refused : host.library.importKey id key p = .error _ p :=
      Library.during_of_destroyed _ _ _ given
    rw [refused] at done
    cases done
  · by_cases crosses : Wire.Crosses key
    · by_cases able : key.CanSign
      · rw [importKey_of_owns host owns crosses able] at done
        cases done
        refine ⟨.inr ⟨_, owns.replacing _, fun x => ?_⟩, fun i issued => ?_, fun k mem => ?_⟩
        · rw [KeyStore.get?_put, latest_snoc, stored]
        · obtain ⟨k, last, able, others⟩ := stocked.signers i issued
          have elsewhere := owns.address_ne others (by simp)
          exact ⟨k, last, able, others.replacing_other elsewhere _⟩
        · rcases List.mem_append.1 mem with mem | mem
          · exact stocked.able k mem
          · cases List.mem_singleton.1 mem
            exact able
      · rw [importKey_of_missing host owns crosses able] at done
        cases done
    · obtain ⟨f, refused⟩ : ∃ f, host.library.importKey id key p = .error (.fault f) p :=
        method_of_not_crosses crosses owns.callable _ _
      rw [refused] at done
      cases done

theorem Stocked.refused (stocked : Stocked id past p)
    (ended : Ends (host.library.importKey id key) p q)
    (failed : ∀ shown, host.library.importKey id key p ≠ .ok (.ok shown) q) :
    Stocked id past q := by
  suffices same : left (host.library.importKey id key) p = p by
    obtain ⟨rfl, -⟩ := ended
    rwa [same]
  rcases stocked.manager with ⟨-, given⟩ | ⟨keys, owns, -⟩
  · exact left_of_error (Library.during_of_destroyed _ _ _ given)
  · by_cases crosses : Wire.Crosses key
    · by_cases able : key.CanSign
      · have done := importKey_of_owns host owns crosses able
        obtain ⟨rfl, -⟩ := ended
        rw [left_of_ok done] at failed
        exact absurd done (failed _)
      · exact left_of_ok (importKey_of_missing host owns crosses able)
    · obtain ⟨f, refused⟩ : ∃ f, host.library.importKey id key p = .error (.fault f) p :=
        method_of_not_crosses crosses owns.callable _ _
      exact left_of_error refused

theorem Stocked.given (stocked : Stocked id past p) {signer : HandleId}
    (done : host.library.signerFor id key p = .ok (.ok signer) q) :
    Stocked id { past with issued := past.issued ++ [⟨signer, key.x, past.imports⟩] } q := by
  rcases stocked.manager with ⟨-, given⟩ | ⟨keys, owns, stored⟩
  · have refused : host.library.signerFor id key p = .error _ p :=
      Library.during_of_destroyed _ _ _ given
    rw [refused] at done
    cases done
  · by_cases crosses : Wire.Crosses key
    · cases found : keys.get? key.x with
      | some k =>
        rw [signerFor_of_found host owns crosses found] at done
        cases done
        refine ⟨.inr ⟨keys, owns.making _ _, stored⟩, fun i issued => ?_, stocked.able⟩
        rcases List.mem_append.1 issued with issued | issued
        · obtain ⟨k, last, able, others⟩ := stocked.signers i issued
          exact ⟨k, last, able, others.making _ _⟩
        · cases List.mem_singleton.1 issued
          have last : latest key.x past.imports = some k := (stored key.x).symm.trans found
          exact ⟨k, last, stocked.able k (latest_mem last).1, owns_making ..⟩
      | none =>
        have refused := signerFor_of_none host owns crosses found (ends_of_ok done)
        rw [refused] at done
        cases done
    · obtain ⟨f, refused⟩ : ∃ f, host.library.signerFor id key p = .error (.fault f) p :=
        method_of_not_crosses crosses owns.callable _ _
      rw [refused] at done
      cases done

theorem Stocked.denied (stocked : Stocked id past p)
    (ended : Ends (host.library.signerFor id key) p q)
    (failed : ∀ signer, host.library.signerFor id key p ≠ .ok (.ok signer) q) :
    Stocked id past q := by
  suffices same : left (host.library.signerFor id key) p = p by
    obtain ⟨rfl, -⟩ := ended
    rwa [same]
  rcases stocked.manager with ⟨-, given⟩ | ⟨keys, owns, -⟩
  · exact left_of_error (Library.during_of_destroyed _ _ _ given)
  · by_cases crosses : Wire.Crosses key
    · cases found : keys.get? key.x with
      | some k =>
        have done := signerFor_of_found host owns crosses found
        obtain ⟨rfl, -⟩ := ended
        rw [left_of_ok done] at failed
        exact absurd done (failed _)
      | none => exact left_of_ok (signerFor_of_none host owns crosses found ended)
    · obtain ⟨f, refused⟩ : ∃ f, host.library.signerFor id key p = .error (.fault f) p :=
        method_of_not_crosses crosses owns.callable _ _
      exact left_of_error refused

theorem Stocked.signed (stocked : Stocked id past p) {i : Issue} (issued : i ∈ past.issued)
    {payload : Bytes} (ended : Ends (host.library.sign i.signer payload) p q) :
    Stocked id past q := by
  suffices same : left (host.library.sign i.signer payload) p = p by
    obtain ⟨rfl, -⟩ := ended
    rwa [same]
  obtain ⟨k, -, able, owns⟩ := stocked.signers i issued
  by_cases crosses : Wire.Crosses payload
  · exact left_of_ok (sign_of_owns host owns able crosses)
  · obtain ⟨f, refused⟩ : ∃ f, host.library.sign i.signer payload p = .error (.fault f) p :=
      method_of_not_crosses crosses owns.callable _ _
    exact left_of_error refused

theorem Stocked.destroyed (stocked : Stocked id past p)
    (ended : Ends (host.library.destroy .keyManager id) p q) : Stocked id past q := by
  rcases stocked.manager with ⟨owned, given⟩ | ⟨keys, owns, -⟩
  · have same := left_of_ok (destroy_of_destroyed host.library .keyManager owned given)
    obtain ⟨rfl, -⟩ := ended
    rwa [same]
  · have gone := left_of_ok (destroy_of_owns host owns .keyManager)
    obtain ⟨rfl, -⟩ := ended
    rw [gone]
    refine ⟨.inl ⟨?_, ?_⟩, fun i issued => ?_, stocked.able⟩
    · simpa [removing, givenUp] using owns.owned
    · simp [removing, givenUp, handle, owns.owned]
    · obtain ⟨k, last, able, others⟩ := stocked.signers i issued
      exact ⟨k, last, able, owns.ending others (by simp)⟩

theorem stocked_of_used {start : Process H} (fresh : Stocked id ⟨[], []⟩ start)
    (used : Used host id start past p) : Stocked id past p := by
  induction used with
  | start => exact fresh
  | imported _ done stocked => exact stocked.imported done
  | refused _ ended failed stocked => exact stocked.refused ended failed
  | given _ done stocked => exact stocked.given done
  | denied _ ended failed stocked => exact stocked.denied ended failed
  | signed _ issued ended stocked => exact stocked.signed issued ended
  | destroyed _ ended stocked => exact stocked.destroyed ended

end

/-- A key manager that has been used like this is a store of keys by `x`. Its signers are right also
when it has been given up itself. -/
structure KeyedByX (host : Host H) (id : HandleId) (past : Past) (p : Process H) : Prop where
  imports : (p.handle id).destroyed = false → ∀ key, Wire.Crosses key →
    ((∃ q, host.library.importKey id key p = .ok (.ok key.toPublic) q) ↔ key.CanSign) ∧
      (¬ key.CanSign → host.library.importKey id key p = .ok (.error missingPrivateKey) p)
  gives : (p.handle id).destroyed = false → ∀ key, Wire.Crosses key →
    ((∃ signer q, host.library.signerFor id key p = .ok (.ok signer) q) ↔
      ∃ k ∈ past.imports, k.x = key.x)
  /-- A key that is too long for the boundary. -/
  oversized : (p.handle id).destroyed = false → ∀ key, ¬ Wire.Crosses key →
    (∃ f, host.library.importKey id key p = .error (.fault f) p) ∧
      ∃ f, host.library.signerFor id key p = .error (.fault f) p
  signs : ∀ i ∈ past.issued, ∃ key secret, latest i.x i.imports = some key ∧
    key.d = some secret ∧ ∀ payload, Wire.Crosses payload → ∃ signature,
      host.library.sign i.signer payload p = .ok (.ok signature) p ∧
        Masks (Bytes.ofText secret) payload signature

section
variable {host : Host H} {id : HandleId} {p : Process H} {past : Past}

theorem keyedByX_of_stocked (stocked : Stocked id past p) : KeyedByX host id past p := by
  have managed (intact : (p.handle id).destroyed = false) :
      ∃ keys, Owns id (.keyManager (.own keys)) p ∧
        ∀ x, keys.get? x = latest x past.imports := by
    rcases stocked.manager with ⟨-, given⟩ | managed
    · rw [intact] at given
      cases given
    · exact managed
  refine ⟨fun intact key crosses => ?_, fun intact key crosses => ?_, fun intact key large => ?_,
    fun i issued => ?_⟩
  · obtain ⟨keys, owns, -⟩ := managed intact
    by_cases able : key.CanSign
    · have done := importKey_of_owns host owns crosses able
      exact ⟨⟨fun _ => able, fun _ => ⟨_, done⟩⟩, fun missing => absurd able missing⟩
    · have refused := importKey_of_missing host owns crosses able
      refine ⟨⟨?_, fun able' => absurd able' able⟩, fun _ => refused⟩
      rintro ⟨q, done⟩
      rw [refused] at done
      cases done
  · obtain ⟨keys, owns, stored⟩ := managed intact
    cases found : keys.get? key.x with
    | some k =>
      have last : latest key.x past.imports = some k := (stored key.x).symm.trans found
      have done := signerFor_of_found host owns crosses found
      exact ⟨fun _ => ⟨k, latest_mem last⟩, fun _ => ⟨_, _, done⟩⟩
    | none =>
      have absent := latest_eq_none_iff.1 ((stored key.x).symm.trans found)
      constructor
      · rintro ⟨signer, q, done⟩
        rw [signerFor_of_none host owns crosses found (ends_of_ok done)] at done
        cases done
      · rintro ⟨k, mem, same⟩
        exact absurd same (absent k mem)
  · obtain ⟨keys, owns, -⟩ := managed intact
    exact ⟨method_of_not_crosses large owns.callable _ _,
      method_of_not_crosses large owns.callable _ _⟩
  · obtain ⟨key, last, able, owns⟩ := stocked.signers i issued
    have signs (payload : Bytes) (crosses : Wire.Crosses payload) :=
      sign_of_owns host owns able crosses
    have masks (payload : Bytes) := masks_scramble (key.canSign_iff.1 able) payload
    obtain ⟨secret, has, -⟩ := able
    have same : Bytes.ofText secret = key.secret := by
      unfold Jwk.secret
      rw [has, Option.getD_some]
    refine ⟨key, secret, last, has, fun payload crosses => ⟨_, signs payload crosses, ?_⟩⟩
    rw [same]
    exact masks payload

end

/-- A new key manager is a store of keys by `x`, whatever else the process does. -/
theorem newKeyManager_keyed_by_x (host : Host H) (p : Process H) :
    ∃ id start, host.library.newKeyManager p = .ok id start ∧
      (start.handle id).destroyed = false ∧
        ∀ past q, Used host id start past q → KeyedByX host id past q := by
  have owns := owns_making .keyManager (.keyManager (.own .empty)) p
  have fresh : Stocked p.handles.length ⟨[], []⟩
      (p.making .keyManager (.keyManager (.own .empty))) :=
    ⟨.inr ⟨.empty, owns, fun _ => rfl⟩, nofun, nofun⟩
  refine ⟨_, _, newKeyManager_eq host p, owns.intact, fun past q used => ?_⟩
  exact keyedByX_of_stocked (stocked_of_used fresh used)

/-- A host that lends nothing. -/
def alone : Host Unit :=
  ⟨fun _ _ => Run.abort, fun _ _ => Run.abort, fun _ _ => Run.abort, fun _ => Run.abort⟩

/-- Keys that differ only in what they sign with. -/
def twin (secret : String) : Jwk := ⟨none, "OKP", "Ed25519", some secret, "k", none⟩

/-! A key manager that has the first twin, then the second, and then gives a signer; the third twin
comes in after that, and the key manager is given up. -/

def unused : Process Unit := left alone.library.newKeyManager (.start ())

def holdingTwins : Process Unit :=
  left (alone.library.importKey 0 (twin "B")) (left (alone.library.importKey 0 (twin "A")) unused)

def givingSigner : Process Unit := left (alone.library.signerFor 0 (twin "A").toPublic) holdingTwins

def orphaned : Process Unit :=
  left (alone.library.destroy .keyManager 0)
    (left (alone.library.importKey 0 (twin "C")) givingSigner)

theorem newKeyManager_keyed_by_x_twins :
    (∃ signer, alone.library.signerFor 0 (twin "A").toPublic holdingTwins =
        .ok (.ok signer) givingSigner) ∧
      ∃ signature, alone.library.sign 1 [0, 0, 1] orphaned = .ok (.ok signature) orphaned ∧
        Masks (Bytes.ofText "B") [0, 0, 1] signature := by
  obtain ⟨id, start, made, -, keyed⟩ := newKeyManager_keyed_by_x alone (.start ())
  cases made
  have holding : Used alone 0 unused ⟨[twin "A", twin "B"], []⟩ holdingTwins :=
    .imported (.imported .start rfl) rfl
  have given : alone.library.signerFor 0 (twin "A").toPublic holdingTwins =
      .ok (.ok 1) givingSigner := rfl
  have giving : Used alone 0 unused ⟨[twin "A", twin "B"], [⟨1, "k", [twin "A", twin "B"]⟩]⟩
      givingSigner := .given holding given
  have orphan : Used alone 0 unused
      ⟨[twin "A", twin "B", twin "C"], [⟨1, "k", [twin "A", twin "B"]⟩]⟩ orphaned :=
    .destroyed (.imported giving rfl) (ends_of_ok rfl)
  refine ⟨⟨1, given⟩, ?_⟩
  obtain ⟨key, secret, last, has, signs⟩ := (keyed _ _ orphan).signs _ (List.mem_singleton.2 rfl)
  cases last
  cases has
  exact signs [0, 0, 1] ⟨_, rfl, by decide⟩

/-- There is something to sign with, but the key does not get to the store. -/
theorem overlong_key_is_not_stored :
    let key := Jwk.overlong (some "s")
    key.CanSign ∧ ∃ f, alone.library.importKey 0 key unused = .error (.fault f) unused := by
  intro key
  have callable : Callable 0 unused := ⟨by decide, rfl, by decide⟩
  have able : key.CanSign := ⟨"s", rfl, by decide⟩
  exact ⟨able, method_of_not_crosses (not_crosses_overlong _) callable _ _⟩

end Boundary
