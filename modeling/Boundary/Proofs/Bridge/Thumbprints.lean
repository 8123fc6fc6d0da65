import Boundary.Proofs.Bridge.InMemory
import Boundary.Proofs.Payload.CanonicalText
import Boundary.Proofs.Payload.Digest

/-!
Thumbprints that the library of the process itself computes. All that it takes is that the key
crosses the boundary: the digest comes back as it is, and the process stays as it is.
-/
namespace Boundary
open Run
variable {H K : Type} {key other : Jwk}

/-- Sixteen digits always fit. -/
theorem exists_encoding_thumbprint (key : Jwk) :
    ∃ made, Buffer.encoding key.thumbprint = .ok made := by
  refine ⟨_, Buffer.encoding_of_short rfl ((Bytes.length_ofText_le _).trans ?_)⟩
  rw [(Jwk.spellsWord_thumbprint key).1]
  decide

def Resident.thumbprintBody (buffer : Buffer) : Run (Process H) (Except DomainError Buffer) := do
  let key ← Entry.argument Jwk buffer
  return .ok (← Run.give (Buffer.ofBytes (Bytes.ofText key.thumbprint)))

theorem Resident.thumbprint_eq_enter (host : Host H) (buffer : Buffer) :
    host.library.thumbprint buffer = Entry.enter .null (thumbprintBody buffer) := rfl

theorem Resident.thumbprintBody_eq {buffer made : Buffer}
    (readable : Wire.lift Jwk buffer.content = .ok key)
    (encoded : Buffer.encoding key.thumbprint = .ok made) (p : Process H) :
    thumbprintBody buffer p = .ok (.ok made) p := by
  have given : Buffer.ofBytes (Bytes.ofText key.thumbprint) = .ok made := encoded
  unfold thumbprintBody
  rw [bind_eq, argument_eq readable]
  dsimp only
  rw [given]
  rfl

namespace Library

theorem thumbprintOf_of_crosses (host : Host H) (crosses : Wire.Crosses key) (p : Process H) :
    host.library.thumbprintOf key p = .ok key.thumbprint p := by
  obtain ⟨buffer, lowered, readable⟩ := lowerArgument_eq host Wire.faithful_jwk crosses p
  obtain ⟨made, encoded⟩ := exists_encoding_thumbprint key
  have answered : host.library.core.call (host.library.thumbprint buffer) p = .ok made p := by
    rw [Resident.thumbprint_eq_enter]
    exact (enter_ok (quiet_library host) _ (Resident.thumbprintBody_eq readable encoded p)).2
  unfold thumbprintOf
  rw [bind_eq, lowered]
  dsimp only
  rw [bind_eq, answered]
  exact liftResult_eq host Wire.faithful_text encoded p

/-- A key that is too long for the boundary. -/
theorem thumbprintOf_of_not_crosses (host : Host H) (large : ¬ Wire.Crosses key) (p : Process H) :
    ∃ f, host.library.thumbprintOf key p = .error (.fault f) p := by
  obtain ⟨f, refused⟩ := lowerArgument_of_not_crosses host large p
  refine ⟨f, ?_⟩
  unfold thumbprintOf
  rw [bind_eq, refused]

theorem thumbprintOf_ok_iff {host : Host H} {p q : Process H} {text : String} :
    host.library.thumbprintOf key p = .ok text q ↔
      Wire.Crosses key ∧ text = key.thumbprint ∧ q = p := by
  constructor
  · intro done
    by_cases crosses : Wire.Crosses key
    · rw [thumbprintOf_of_crosses host crosses] at done
      cases done
      exact ⟨crosses, rfl, rfl⟩
    · obtain ⟨f, refused⟩ := thumbprintOf_of_not_crosses host crosses p
      rw [refused] at done
      cases done
  · rintro ⟨crosses, rfl, rfl⟩
    exact thumbprintOf_of_crosses host crosses q

end Library

theorem Jwk.SameMembers.thumbprint_eq (same : key.SameMembers other) :
    key.thumbprint = other.thumbprint := by
  rw [Jwk.thumbprint_eq_iff, same.canonicalText_eq]

/-- Nothing of a key gets into its thumbprint but the members that identify it, wherever it is
computed. For each key that crosses the boundary a thumbprint comes back, and it spells the digest
of the canonical text in full. -/
theorem Library.thumbprintOf_public (host : Host H) (p : Process H) (elsewhere : Host K)
    (q : Process K) :
    (∀ key other : Jwk, key.SameMembers other →
      (Wire.Crosses key → Wire.Crosses other → ∃ text,
        host.library.thumbprintOf key p = .ok text p ∧
          elsewhere.library.thumbprintOf other q = .ok text q) ∧
        ∀ text text' p' q', host.library.thumbprintOf key p = .ok text p' →
          elsewhere.library.thumbprintOf other q = .ok text' q' → text = text') ∧
      ∀ key : Jwk, Wire.Crosses key → ∃ text,
        host.library.thumbprintOf key p = .ok text p ∧
          SpellsWord text (Bytes.ofText key.canonicalText).fnv := by
  refine ⟨fun key other same => ⟨fun first second => ?_, ?_⟩, fun key crosses => ?_⟩
  · have computed := thumbprintOf_of_crosses elsewhere second q
    rw [← same.thumbprint_eq] at computed
    exact ⟨_, thumbprintOf_of_crosses host first p, computed⟩
  · intro text text' p' q' done done'
    obtain ⟨-, rfl, -⟩ := thumbprintOf_ok_iff.1 done
    obtain ⟨-, rfl, -⟩ := thumbprintOf_ok_iff.1 done'
    exact same.thumbprint_eq
  · exact ⟨_, thumbprintOf_of_crosses host crosses p, Jwk.spellsWord_thumbprint key⟩

/-- With its private part and without, and with a digest that begins with zeros. -/
theorem Library.thumbprintOf_public_leading_zeros :
    let key : Jwk := ⟨none, "OKP", "Ed25519", none, "56", none⟩
    let other : Jwk := ⟨some "EdDSA", "OKP", "Ed25519", some "secret", "56", none⟩
    ∃ text, alone.library.thumbprintOf key (.start ()) = .ok text (.start ()) ∧
      alone.library.thumbprintOf other (.start ()) = .ok text (.start ()) ∧
      SpellsWord text 0x00b654be7f76a5fc := by
  intro key other
  obtain ⟨agree, spelled⟩ := thumbprintOf_public alone (.start ()) alone (.start ())
  have crosses : Wire.Crosses key := ⟨_, rfl, by decide⟩
  have same : key.SameMembers other := ⟨rfl, rfl, rfl, rfl⟩
  obtain ⟨text, first, second⟩ := (agree key other same).1 crosses ⟨_, rfl, by decide⟩
  obtain ⟨text', done, spells⟩ := spelled key crosses
  have digest : (Bytes.ofText key.canonicalText).fnv = 0x00b654be7f76a5fc := by decide +kernel
  rw [first] at done
  cases done
  exact ⟨text, first, second, digest ▸ spells⟩

theorem Jwk.thumbprint_ne_of_oneByteApart
    (apart : Bytes.OneByteApart (Bytes.ofText key.canonicalText)
      (Bytes.ofText other.canonicalText)) : key.thumbprint ≠ other.thumbprint :=
  fun same => apart.digest_ne (Jwk.thumbprint_eq_iff.1 same)

/-- Two computations, wherever they are made: one byte that differs makes the thumbprints differ.
Both come back unless a key is too long for the boundary. -/
theorem Library.thumbprintOf_ne_of_oneByteApart
    (apart : Bytes.OneByteApart (Bytes.ofText key.canonicalText) (Bytes.ofText other.canonicalText))
    (host : Host H) (p : Process H) (elsewhere : Host K) (q : Process K) :
    (Wire.Crosses key → Wire.Crosses other → ∃ text text',
      host.library.thumbprintOf key p = .ok text p ∧
        elsewhere.library.thumbprintOf other q = .ok text' q ∧ text ≠ text') ∧
      ∀ text text' p' q', host.library.thumbprintOf key p = .ok text p' →
        elsewhere.library.thumbprintOf other q = .ok text' q' → text ≠ text' := by
  have differ := Jwk.thumbprint_ne_of_oneByteApart apart
  constructor
  · intro first second
    exact ⟨_, _, thumbprintOf_of_crosses host first p, thumbprintOf_of_crosses elsewhere second q,
      differ⟩
  · intro text text' p' q' done done'
    obtain ⟨-, rfl, -⟩ := thumbprintOf_ok_iff.1 done
    obtain ⟨-, rfl, -⟩ := thumbprintOf_ok_iff.1 done'
    exact differ

/-- The last character of `x` is another one. -/
theorem Library.thumbprintOf_ne_of_oneByteApart_last :
    let key : Jwk := ⟨none, "OKP", "Ed25519", none, "abc", none⟩
    let other : Jwk := ⟨none, "OKP", "Ed25519", some "s", "abd", none⟩
    ∃ text text', alone.library.thumbprintOf key (.start ()) = .ok text (.start ()) ∧
      alone.library.thumbprintOf other (.start ()) = .ok text' (.start ()) ∧ text ≠ text' := by
  intro key other
  have apart : Bytes.OneByteApart (Bytes.ofText key.canonicalText)
      (Bytes.ofText other.canonicalText) := by decide
  exact (thumbprintOf_ne_of_oneByteApart apart alone (.start ()) alone (.start ())).1
    ⟨_, rfl, by decide⟩ ⟨_, rfl, by decide⟩

end Boundary
