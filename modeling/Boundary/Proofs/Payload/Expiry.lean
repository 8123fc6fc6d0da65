import Boundary.Payload.Credential
import Boundary.Proofs.Wire.Instants

/-!
Credentials that have crossed the boundary. Nothing but a leap second comes back as something else,
and that is earlier: so a credential can be found to be expired within the leap second at whose end
it would have expired, and never comes back to life.
-/
namespace Boundary
namespace Credential
variable {c : Credential} {b : Bytes}

/-- The dates are instants that there are. -/
structure Dated (c : Credential) : Prop where
  issued : c.issued.Valid
  expires : ∀ t ∈ c.expires, t.Valid

/-- The same, with its dates as they are written. -/
def folded (c : Credential) : Credential :=
  { c with issued := c.issued.fold, expires := c.expires.map Instant.fold }

theorem encode_folded (c : Credential) :
    (Wire.toValue c.folded).encode = (Wire.toValue c).encode := by
  obtain ⟨context, type, id, issuer, subject, issued, expires⟩ := c
  cases expires <;> simp [Wire.toValue, folded, Value.encode, Value.encodeAll, Instant.fold_fold]

theorem oversize?_folded (c : Credential) :
    (Wire.toValue c.folded).oversize? = (Wire.toValue c).oversize? := by
  obtain ⟨context, type, id, issuer, subject, issued, expires⟩ := c
  cases expires <;> simp [Wire.toValue, folded, Value.oversize?, Value.anyOversize?]

/-- Dates are written as the folded ones. -/
theorem lower_folded (c : Credential) : Wire.lower c.folded = Wire.lower c := by
  change (Wire.toValue c.folded).write = (Wire.toValue c).write
  unfold Value.write
  rw [encode_folded, oversize?_folded]

theorem Dated.plain_of_mem (dated : c.Dated) {t : Instant} (some : c.folded.expires = some t) :
    t.Plain := by
  obtain ⟨u, found, rfl⟩ := Option.map_eq_some_iff.1 some
  exact Instant.plain_fold (dated.expires u found)

theorem Dated.holds_folded (dated : c.Dated) (enclosing : List Shape) :
    Shape.Holds enclosing (Wire.shape Credential) (Wire.toValue c.folded) := by
  have texts := Wire.faithful_text.list.holds (Wire.shape Credential :: enclosing)
  have expires : Shape.Holds (Wire.shape Credential :: enclosing) (Wire.shape (Option Instant))
      (Wire.toValue c.folded.expires) := by
    cases found : c.folded.expires with
    | none => exact .absent
    | some t => exact .present (.instant (dated.plain_of_mem found).valid)
  refine .record nofun rfl ?_
  simp only [List.zip_cons_cons, List.zip_nil_right, List.forall_mem_cons]
  exact ⟨texts c.context, texts c.type, .text c.id, .text c.issuer, .text c.subject,
    .instant (Instant.plain_fold dated.issued).valid, expires, nofun⟩

theorem Dated.portable_folded (dated : c.Dated) :
    (Wire.toValue c.folded).oversize? = none → (Wire.toValue c.folded).Portable := by
  have text := Wire.faithful_text.portable
  have texts := Wire.faithful_text.list.portable
  have plain {t : Instant} (plain : t.Plain) : (Value.instant t).Portable :=
    (Value.portable_cases _).2 plain.not_leap
  have expires : (Wire.toValue c.folded.expires).Portable := by
    cases found : c.folded.expires with
    | none => exact (Value.portable_cases _).2 trivial
    | some t => exact (Value.portable_cases _).2 (plain (dated.plain_of_mem found))
  refine Wire.portable_record ?_
  simp only [List.forall_mem_cons]
  exact ⟨texts _, texts _, text _, text _, text _, fun _ => plain (Instant.plain_fold dated.issued),
    fun _ => expires, nofun⟩

theorem ofValue_toValue (c : Credential) : (Wire.ofValue (Wire.toValue c) : Credential) = c := by
  have texts := Wire.faithful_text.list.ofValue_toValue
  obtain ⟨context, type, id, issuer, subject, issued, expires⟩ := c
  change Credential.mk (Wire.ofValue (Wire.toValue context)) (Wire.ofValue (Wire.toValue type)) id
    issuer subject issued (Wire.ofValue (Wire.toValue expires)) = _
  rw [texts, texts]
  cases expires <;> rfl

theorem lift_of_lower (dated : c.Dated) (written : Wire.lower c = .ok b) :
    Wire.lift Credential b = .ok c.folded := by
  have formed : (Wire.shape Credential).WellFormed 0 0 := by
    simp [Wire.shape, Shape.WellFormed, Shape.WellFormed.fieldsWellFormed]
  have lifted : (Wire.shape Credential).lift b = .ok (Wire.toValue c.folded) :=
    Value.lift_of_lower formed (dated.holds_folded []) dated.portable_folded
      ((lower_folded c).trans written)
  unfold Wire.lift
  rw [lifted, Except.map, ofValue_toValue]

/-! ### Expiry -/

theorem isExpiredAt_iff {now : Instant} : c.isExpiredAt now = true ↔ ∃ t ∈ c.expires, t ≤ now := by
  unfold isExpiredAt
  cases c.expires <;> simp

theorem isExpiredAt_mono {now later : Instant} (le : now ≤ later)
    (expired : c.isExpiredAt now = true) : c.isExpiredAt later = true := by
  obtain ⟨t, date, due⟩ := isExpiredAt_iff.1 expired
  exact isExpiredAt_iff.2 ⟨t, date, Instant.le_trans due le⟩

theorem isExpiredAt_folded_iff {now : Instant} :
    c.folded.isExpiredAt now = true ↔ ∃ t ∈ c.expires, t.fold ≤ now := by
  unfold isExpiredAt folded
  cases c.expires <;> simp

theorem seconds_eq_of_between {t now : Instant} (due : t.fold ≤ now) (early : ¬ t ≤ now) :
    now.seconds = t.seconds := by
  rcases due with before | ⟨same, -⟩
  · exact absurd (.inl before) early
  · exact same.symm

/-- A credential that can be written comes back with its dates folded and all else as it was. It is
expired when it was before, and it stays so. Only within the leap second in which it expires can it
be found expired too early. -/
theorem crossing_never_extends (dated : c.Dated) (written : Wire.lower c = .ok b) :
    Wire.lift Credential b =
        .ok { c with issued := c.issued.fold, expires := c.expires.map Instant.fold } ∧
      ∀ d, Wire.lift Credential b = .ok d →
        (∀ now, c.isExpiredAt now = true → d.isExpiredAt now = true) ∧
        ((∀ t ∈ c.expires, ¬ t.IsLeap) → ∀ now, d.isExpiredAt now = c.isExpiredAt now) ∧
        (∀ now, d.isExpiredAt now ≠ c.isExpiredAt now →
          ∃ t ∈ c.expires, t.IsLeap ∧ now.seconds = t.seconds) ∧
        ∀ now later, now ≤ later →
          (c.isExpiredAt now = true → c.isExpiredAt later = true) ∧
          (d.isExpiredAt now = true → d.isExpiredAt later = true) := by
  have lifted := lift_of_lower dated written
  refine ⟨lifted, fun d returned => ?_⟩
  obtain rfl := Except.ok.inj (lifted.symm.trans returned)
  -- Folding only ever moves a date back.
  have kept : ∀ now, c.isExpiredAt now = true → c.folded.isExpiredAt now = true := by
    intro now expired
    obtain ⟨t, date, due⟩ := isExpiredAt_iff.1 expired
    exact isExpiredAt_folded_iff.2 ⟨t, date, Instant.le_trans t.fold_le due⟩
  have differs : ∀ now, c.folded.isExpiredAt now ≠ c.isExpiredAt now →
      ∃ t ∈ c.expires, t.IsLeap ∧ now.seconds = t.seconds := by
    intro now apart
    cases before : c.isExpiredAt now with
    | true => exact absurd (kept now before) (before ▸ apart)
    | false =>
      rw [before, Bool.ne_false_iff] at apart
      obtain ⟨t, date, due⟩ := isExpiredAt_folded_iff.1 apart
      have early : ¬ t ≤ now := by
        intro due
        rw [isExpiredAt_iff.2 ⟨t, date, due⟩] at before
        cases before
      refine ⟨t, date, ?_, seconds_eq_of_between due early⟩
      by_contra other
      exact early (Instant.fold_of_not_leap other ▸ due)
  refine ⟨kept, fun plain now => ?_, differs, fun now later le =>
    ⟨isExpiredAt_mono le, isExpiredAt_mono le⟩⟩
  by_contra apart
  obtain ⟨t, date, leap, -⟩ := differs now apart
  exact plain t date leap

/-- Issued in a leap second before 1970, to expire in that at the end of 2016. -/
def leaping : Credential :=
  ⟨["https://www.w3.org/2018/credentials/v1"], ["VerifiableCredential", ""], "", "\"é\"", "",
    ⟨-1, 1999999999⟩, some ⟨1483228799, 1500000000⟩⟩

theorem crossing_never_extends_leaping :
    ∃ b d, Wire.lower leaping = .ok b ∧ Wire.lift Credential b = .ok d ∧
      d.issued = ⟨-1, 999999999⟩ ∧ d.type = ["VerifiableCredential", ""] ∧
      d.isExpiredAt ⟨1483228799, 1499999999⟩ = true ∧
      leaping.isExpiredAt ⟨1483228799, 1499999999⟩ = false ∧
      d.isExpiredAt ⟨1483228799, 999999998⟩ = false ∧
      d.isExpiredAt ⟨1483228799, 1500000000⟩ = true ∧ d.isExpiredAt ⟨1483228800, 0⟩ = true := by
  have dated : leaping.Dated := ⟨by decide, by simp [leaping]; decide⟩
  obtain ⟨lifted, agrees⟩ := crossing_never_extends dated rfl
  obtain ⟨kept, -, -, stays⟩ := agrees _ lifted
  have due := kept ⟨1483228799, 1500000000⟩ (by decide)
  exact ⟨_, _, rfl, lifted, rfl, rfl, by decide, by decide, by decide, due,
    (stays _ ⟨1483228800, 0⟩ (by decide)).2 due⟩

end Credential
end Boundary
