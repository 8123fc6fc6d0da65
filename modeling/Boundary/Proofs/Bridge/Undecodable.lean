import Boundary.Proofs.Bridge.Thumbprints
import Boundary.Proofs.Wire.ErrorTexts
/-!
Arguments that do not decode. Each entry point reads its argument before it does anything else with
its object, and what it ends in is put into a status, like any other fault. So the caller hears what
was wrong with the bytes, and nothing else has come of the call.
-/
namespace Boundary
open Run Process
variable {H α : Type} {p : Process H}

/-- What is said of bytes that are no argument. -/
def undecodable (α : Type) [Wire α] (e : CodecError) : String :=
  "failed to lift " ++ (Wire.shape α).fullName ++ " argument: " ++ e.message

theorem undecodable_ne [Wire α] (e : CodecError) : undecodable α e ≠ "" := by
  unfold undecodable
  intro silent
  have parts := String.append_eq_empty_iff.1 (String.append_eq_empty_iff.1 silent).1
  exact absurd parts.2 (by decide)

/-- What is said of an argument finds room in a buffer. -/
theorem length_undecodable [Wire α] (short : (Bytes.ofText (Wire.shape α).fullName).length ≤ 128)
    {e : CodecError} (brief : e.Brief) : (Bytes.ofText (undecodable α e)).length ≤ maxRegion := by
  have words :
      (Bytes.ofText "failed to lift ").length + (Bytes.ofText " argument: ").length = 26 := by
    decide
  have message := brief.length_message
  unfold undecodable
  simp only [Bytes.length_ofText_append]
  unfold maxRegion
  omega

/-- After a fault, everything goes on as if the run had not taken place. -/
def Run.Unnoticed {σ : Type} (x : Run σ α) (s : σ) : Prop :=
  ∀ {γ : Type} (later : Run σ γ), (do let _ ← attempt x; later) s = later s

theorem Run.unnoticed_of_fault {σ : Type} {x : Run σ α} {s : σ} {f : Fault}
    (failed : x s = .error (.fault f) s) : x.Unnoticed s := by
  intro γ later
  rw [bind_eq]
  unfold attempt
  rw [failed]

/-- A call to the entry point faults with a text of the native core, and nothing else comes of it.
This is so for every host, also for one whose callbacks end the process: no callback runs. -/
structure PanicsInVain (text : String) (entry : Host H → Run (Process H) (Reply α))
    (p : Process H) : Prop where
  declaring : ∀ host : Host H, host.library.callOrError (entry host) p =
    .error (.fault (.nativePanic text)) p
  plain : ∀ host : Host H, host.library.core.call (entry host) p =
    .error (.fault (.nativePanic text)) p
  unnoticed : ∀ host : Host H, (host.library.callOrError (entry host)).Unnoticed p ∧
    (host.library.core.call (entry host)).Unnoticed p

theorem panicsInVain_of_body {body : Host H → Run (Process H) (Except DomainError α)} {f : Fault}
    (placeholder : α) (told : f.message ≠ "") (fits : (Bytes.ofText f.message).length ≤ maxRegion)
    (failed : ∀ host, body host p = .error (.fault f) p) :
    PanicsInVain f.message (fun host => Entry.enter placeholder (body host)) p := by
  have both (host : Host H) :=
    Library.enter_panic (Library.quiet_library host) placeholder (failed host) told fits
  refine ⟨fun host => (both host).1, fun host => (both host).2, fun host => ?_⟩
  exact ⟨unnoticed_of_fault (both host).1, unnoticed_of_fault (both host).2⟩

/-! ### The entry points -/

section
variable {buffer : Buffer} {e : CodecError} {address : Nat}

theorem Entry.argument_of_error [Wire α] (unreadable : Wire.lift α buffer.content = .error e)
    (p : Process H) :
    Entry.argument α buffer p = .error (.fault (.argument (Wire.shape α).fullName e)) p := by
  unfold argument
  rw [unreadable]
  rfl

namespace Resident
variable (host : Host H)

theorem signBody_of_unreadable {signer : ResidentSigner}
    (object : p.objects.get? address = some (.signer signer))
    (unreadable : Wire.lift Bytes buffer.content = .error e) :
    signBody host address buffer p =
      .error (.fault (.argument (Wire.shape Bytes).fullName e)) p := by
  unfold signBody
  rw [bind_eq, signerAt_eq object]
  dsimp only
  rw [bind_eq, Entry.argument_of_error unreadable]

variable {manager : ResidentKeyManager}

theorem importBody_of_unreadable (object : p.objects.get? address = some (.keyManager manager))
    (unreadable : Wire.lift Jwk buffer.content = .error e) :
    importBody host address buffer p =
      .error (.fault (.argument (Wire.shape Jwk).fullName e)) p := by
  unfold importBody
  rw [bind_eq, keyManagerAt_eq object]
  dsimp only
  rw [bind_eq, Entry.argument_of_error unreadable]

theorem signerBody_of_unreadable (object : p.objects.get? address = some (.keyManager manager))
    (unreadable : Wire.lift Jwk buffer.content = .error e) :
    signerBody host address buffer p =
      .error (.fault (.argument (Wire.shape Jwk).fullName e)) p := by
  unfold signerBody
  rw [bind_eq, keyManagerAt_eq object]
  dsimp only
  rw [bind_eq, Entry.argument_of_error unreadable]

theorem thumbprintBody_of_unreadable (unreadable : Wire.lift Jwk buffer.content = .error e)
    (p : Process H) :
    thumbprintBody buffer p = .error (.fault (.argument (Wire.shape Jwk).fullName e)) p := by
  unfold thumbprintBody
  rw [bind_eq, Entry.argument_of_error unreadable]

end Resident
end

/-- Whatever an object is made of, and whatever the bytes are: if they are not an argument, the call
comes to a fault that says why, and to nothing else. -/
theorem undecodable_arguments_in_vain (p : Process H) (buffer : Buffer) (e : CodecError) :
    (Wire.lift Bytes buffer.content = .error e →
      ∀ address signer, p.objects.get? address = some (.signer signer) →
        PanicsInVain (undecodable Bytes e)
          (fun host => host.library.signer.sign address buffer) p) ∧
    (Wire.lift Jwk buffer.content = .error e →
      (∀ address manager, p.objects.get? address = some (.keyManager manager) →
        PanicsInVain (undecodable Jwk e)
          (fun host => host.library.keyManager.importKey address buffer) p ∧
        PanicsInVain (undecodable Jwk e)
          (fun host => host.library.keyManager.signerFor address buffer) p) ∧
      PanicsInVain (undecodable Jwk e) (fun host => host.library.thumbprint buffer) p) := by
  have told {α : Type} [Wire α] :
      (Fault.argument (Wire.shape α).fullName e).message ≠ "" := undecodable_ne e
  have content := buffer.length_content
  constructor
  · intro unreadable address signer object
    have fits : (Bytes.ofText (undecodable Bytes e)).length ≤ maxRegion :=
      length_undecodable (by decide) (Wire.brief_of_lift_bytes content unreadable)
    exact panicsInVain_of_body .null told fits fun host =>
      Resident.signBody_of_unreadable host object unreadable
  · intro unreadable
    have fits : (Bytes.ofText (undecodable Jwk e)).length ≤ maxRegion :=
      length_undecodable (by decide) (Wire.brief_of_lift_jwk content unreadable)
    refine ⟨fun address manager object => ⟨?_, ?_⟩, ?_⟩
    · exact panicsInVain_of_body .null told fits fun host =>
        Resident.importBody_of_unreadable host object unreadable
    · exact panicsInVain_of_body 0 told fits fun host =>
        Resident.signerBody_of_unreadable host object unreadable
    · exact panicsInVain_of_body .null told fits fun _ =>
        Resident.thumbprintBody_of_unreadable unreadable p

/-- A key manager with a key of its own, and a signer whose callback ends the process. -/
def staffed : Process Unit :=
  left (alone.library.fromHost alone .signer 1)
    ((left (alone.library.importKey 0 (twin "A")) unused).holding 1)

theorem undecodable_arguments_in_vain_staffed :
    let sign (b : Buffer) := alone.library.callOrError (alone.library.signer.sign 2 b)
    let importKey (b : Buffer) := alone.library.callOrError (alone.library.keyManager.importKey 1 b)
    let vain (text : String) : Stop := .fault (.nativePanic text)
    (∃ q, sign (.region [0, 0, 0, 0]) staffed = .error .abort q) ∧
      sign .null staffed = .error (vain (undecodable Bytes (.truncated 4 0))) staffed ∧
      importKey (.region [0xff, 0]) staffed =
        .error (vain (undecodable Jwk (.invalidOptionFlag 255))) staffed ∧
      (do let _ ← attempt (importKey (.region [0xff, 0])); alone.library.sign 1 [7]) staffed =
        alone.library.sign 1 [7] staffed := by
  intro sign importKey vain
  have null : Wire.lift Bytes Buffer.null.content = .error (.truncated 4 0) := rfl
  have flag : Wire.lift Jwk (Buffer.region [0xff, 0]).content = .error (.invalidOptionFlag 255) :=
    rfl
  obtain ⟨unsigned, -⟩ := undecodable_arguments_in_vain staffed .null (.truncated 4 0)
  obtain ⟨-, unread⟩ :=
    undecodable_arguments_in_vain staffed (.region [0xff, 0]) (.invalidOptionFlag 255)
  obtain ⟨imported, -⟩ := (unread flag).1 1 (.own (KeyStore.empty.put (twin "A"))) rfl
  refine ⟨⟨_, rfl⟩, (unsigned null 2 _ rfl).declaring alone, imported.declaring alone, ?_⟩
  exact (imported.unnoticed alone).1 _

end Boundary
