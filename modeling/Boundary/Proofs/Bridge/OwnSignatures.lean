import Boundary.Proofs.Bridge.InMemory
/-!
Signatures with keys of a key manager's own. The key is used over and over along the payload, and
each byte is combined with its part of the key, so that a signature has the length of its payload
and signing it once more gives the payload back. For this there has to be a key: the store never
takes one in that has nothing to sign with.
-/
namespace Boundary
open Run Process
variable {H : Type}

/-! ### The combination with a secret -/

theorem length_scramble {secret : Bytes} (some : secret.isEmpty = false) (payload : Bytes) :
    (scramble secret payload).length = payload.length :=
  (masks_scramble some payload).1

theorem scramble_scramble {secret : Bytes} (some : secret.isEmpty = false) (payload : Bytes) :
    scramble secret (scramble secret payload) = payload := by
  have length := length_scramble some payload
  have twice := length_scramble some (scramble secret payload)
  refine List.ext_getElem (twice.trans length) fun i _ inside => ?_
  unfold scramble
  simp only [some, Bool.false_eq_true, if_false, List.getElem_mapIdx, UInt8.xor_assoc,
    UInt8.xor_self, UInt8.xor_zero]

/-! ### The boundary -/

theorem Wire.crosses_bytes_iff {payload : Bytes} :
    Wire.Crosses payload ↔ payload.length + 4 ≤ maxLength := by
  have encoded : (Value.bytes payload).encode.length = payload.length + 4 := by
    simp [Value.encode, lengthPrefix, Nat.add_comm]
  constructor
  · rintro ⟨b, written, fits⟩
    have same := (Value.write_of_fits (Value.fits_of_write written)).symm.trans written
    cases same
    rwa [← encoded]
  · intro fits
    have short : (Value.bytes payload).oversize? = none :=
      Value.tooLong?_eq_none_iff.2 (by omega)
    refine ⟨_, Value.write_of_fits short, ?_⟩
    rwa [← encoded] at fits

namespace Process

/-- What the signer signs, it gives back when it signs the result. -/
structure SelfInverse (host : Host H) (id : HandleId) (start : Process H) (i : Issue)
    (p : Process H) : Prop where
  /-- Inside the core there is no limit to the length. -/
  inside : ∃ key, p.objects.get? (p.handle i.signer).address = some (.signer (.own key)) ∧
    key.CanSign ∧ ∀ payload, ∃ signature,
      Resident.sign host payload (.own key) p = .ok (.ok signature) p ∧
        signature.length = payload.length ∧
        Resident.sign host signature (.own key) p = .ok (.ok payload) p
  /-- The key manager can have been used again before the signature is signed. -/
  outside : ∀ payload : Bytes, payload.length + 4 ≤ maxLength → ∃ signature,
    host.library.sign i.signer payload p = .ok (.ok signature) p ∧
      signature.length = payload.length ∧
      ∀ later q, Used host id start later q → i ∈ later.issued →
        host.library.sign i.signer signature q = .ok (.ok payload) q
  /-- A payload that is too long for the boundary does not get to the signer. -/
  oversized : ∀ payload : Bytes, maxLength < payload.length + 4 →
    ∃ f, host.library.sign i.signer payload p = .error (.fault f) p

end Process

section
variable {host : Host H} {id : HandleId} {start p : Process H} {past : Past} {i : Issue}

theorem selfInverse_of_used (fresh : Stocked id ⟨[], []⟩ start)
    (used : Used host id start past p) (issued : i ∈ past.issued) :
    SelfInverse host id start i p := by
  obtain ⟨key, last, able, owns⟩ := (stocked_of_used fresh used).signers i issued
  have secret := key.canSign_iff.1 able
  refine ⟨⟨key, owns.object, able, fun payload => ?_⟩, fun payload fits => ?_,
    fun payload long => ?_⟩
  · refine ⟨scramble key.secret payload, rfl, length_scramble secret payload, ?_⟩
    dsimp only [Resident.sign]
    rw [scramble_scramble secret]
    rfl
  · have length := length_scramble secret payload
    have crosses : Wire.Crosses (scramble key.secret payload) := by
      rwa [Wire.crosses_bytes_iff, length]
    refine ⟨_, sign_of_owns host owns able (Wire.crosses_bytes_iff.2 fits), length,
      fun later q usedAgain issued => ?_⟩
    -- The signer stays what it was given out as, so that it still has the same key.
    obtain ⟨other, last', -, owns⟩ := (stocked_of_used fresh usedAgain).signers i issued
    cases Option.some.inj (last.symm.trans last')
    rw [sign_of_owns host owns able crosses, scramble_scramble secret]
  · have large : ¬ Wire.Crosses payload := by
      rw [Wire.crosses_bytes_iff]
      omega
    exact method_of_not_crosses large owns.callable _ _

end

/-- Whatever was imported into a new key manager, or refused, before it gave out a signer: what the
signer makes of a payload has its length, and turns back into it. -/
theorem signatures_undo_themselves (host : Host H) (p : Process H) :
    ∃ id start, host.library.newKeyManager p = .ok id start ∧
      ∀ past q, Used host id start past q → ∀ i ∈ past.issued, SelfInverse host id start i q := by
  have owns := owns_making .keyManager (.keyManager (.own .empty)) p
  have fresh : Stocked p.handles.length ⟨[], []⟩
      (p.making .keyManager (.keyManager (.own .empty))) :=
    ⟨.inr ⟨.empty, owns, fun _ => rfl⟩, nofun, nofun⟩
  exact ⟨_, _, newKeyManager_eq host p, fun past q used i issued =>
    selfInverse_of_used fresh used issued⟩

/-! A key manager that refuses a twin without a secret, has one with two bytes, and gives a signer;
another twin comes in after that. -/

def refusingTwin : Process Unit := left (alone.library.importKey 0 (twin "")) unused

def holdingTwin : Process Unit := left (alone.library.importKey 0 (twin "AB")) refusingTwin

def givingTwin : Process Unit := left (alone.library.signerFor 0 (twin "")) holdingTwin

def replacingTwin : Process Unit := left (alone.library.importKey 0 (twin "C")) givingTwin

theorem signatures_undo_themselves_twins :
    ∃ signature, alone.library.sign 1 [0, 0, 0, 9, 9] givingTwin = .ok (.ok signature) givingTwin ∧
      signature.length = 5 ∧
      alone.library.sign 1 signature replacingTwin = .ok (.ok [0, 0, 0, 9, 9]) replacingTwin := by
  obtain ⟨id, start, made, undo⟩ := signatures_undo_themselves alone (.start ())
  cases made
  have refused : alone.library.importKey 0 (twin "") unused =
      .ok (.error missingPrivateKey) refusingTwin := rfl
  have refusing : Used alone 0 unused ⟨[], []⟩ refusingTwin := by
    refine .refused .start (ends_of_ok refused) fun shown done => ?_
    rw [refused] at done
    cases done
  have holding : Used alone 0 unused ⟨[twin "AB"], []⟩ holdingTwin := .imported refusing rfl
  have given : alone.library.signerFor 0 (twin "") holdingTwin = .ok (.ok 1) givingTwin := rfl
  have giving : Used alone 0 unused ⟨[twin "AB"], [⟨1, "k", [twin "AB"]⟩]⟩ givingTwin :=
    .given holding given
  have replacing : Used alone 0 unused ⟨[twin "AB", twin "C"], [⟨1, "k", [twin "AB"]⟩]⟩
      replacingTwin := .imported giving rfl
  obtain ⟨signature, signed, length, undone⟩ :=
    (undo _ _ giving _ (List.mem_singleton.2 rfl)).outside [0, 0, 0, 9, 9] (by decide)
  exact ⟨signature, signed, length, undone _ _ replacing (List.mem_singleton.2 rfl)⟩

/-- The length of the payload can be written down, but with it the payload cannot be lent. -/
theorem overlong_payload_is_not_signed :
    alone.library.signerFor 0 (twin "") holdingTwin = .ok (.ok 1) givingTwin ∧
      ∃ f, alone.library.sign 1 (List.replicate 2147483644 0) givingTwin =
        .error (.fault f) givingTwin := by
  have callable : Callable 1 givingTwin := ⟨by decide, rfl, by decide⟩
  have large : ¬ Wire.Crosses (List.replicate 2147483644 (0 : UInt8)) := by
    rw [Wire.crosses_bytes_iff, List.length_replicate]
    decide
  exact ⟨rfl, method_of_not_crosses large callable _ _⟩

end Boundary
