import Boundary.Proofs.Wire.Canonical

/-!
What becomes of an instant on the wire. A leap second has no number of its own there, so it is
written as the last nanosecond of its second; all that a reader gives out is in this normal form,
also where the nanoseconds it reads make up several seconds. A pair outside the range is refused;
so is one that only its nanoseconds carry into the range.
-/
namespace Boundary
namespace Instant

/-- Not a leap second, and in range. -/
def Plain (t : Instant) : Prop := InRange t.seconds ∧ t.nanos < nanosPerSecond

theorem Plain.valid {t : Instant} (plain : t.Plain) : t.Valid := by
  obtain ⟨range, small⟩ := plain
  exact ⟨range, by omega⟩

theorem Plain.not_leap {t : Instant} (plain : t.Plain) : ¬ t.IsLeap := Nat.not_le.mpr plain.2

theorem Plain.fold_eq {t : Instant} (plain : t.Plain) : t.fold = t := by
  have small := plain.2
  unfold fold
  congr
  omega

theorem plain_fold {t : Instant} (valid : t.Valid) : t.fold.Plain := by
  constructor
  · exact valid.1
  · simp only [fold, nanosPerSecond]
    omega

theorem fold_eq_ite (t : Instant) :
    t.fold = if t.IsLeap then ⟨t.seconds, nanosPerSecond - 1⟩ else t := by
  split
  next leap =>
    have late : nanosPerSecond ≤ t.nanos := leap
    unfold fold
    congr
    omega
  next other =>
    have early : t.nanos < nanosPerSecond := Nat.not_le.mp other
    unfold fold
    congr
    omega

theorem fold_fold (t : Instant) : t.fold.fold = t.fold := by simp [fold]

theorem fold_of_not_leap {t : Instant} (other : ¬ t.IsLeap) : t.fold = t := by
  rw [fold_eq_ite, if_neg other]

theorem fold_le (t : Instant) : t.fold ≤ t := .inr ⟨rfl, Nat.min_le_left ..⟩

theorem le_trans {t u v : Instant} (first : t ≤ u) (second : u ≤ v) : t ≤ v := by
  rcases first with before | ⟨same, le⟩
  · rcases second with before' | ⟨same', -⟩
    · exact .inl (Int.lt_trans before before')
    · exact .inl (same' ▸ before)
  · rcases second with before' | ⟨same', le'⟩
    · exact .inl (same ▸ before')
    · exact .inr ⟨same.trans same', Nat.le_trans le le'⟩

/-- Instants keep their order: a leap second stays behind the second that it follows. -/
theorem fold_mono {t u : Instant} (le : t ≤ u) : t.fold ≤ u.fold := by
  rcases le with before | ⟨same, le⟩
  · exact .inl before
  · refine .inr ⟨same, ?_⟩
    simp only [fold]
    omega

/-- The nanoseconds since the start of 1970. -/
def sinceEpoch (t : Instant) : Int := t.seconds * nanosPerSecond + t.nanos

theorem after?_eq_some {seconds : Int} {nanos : Nat} {t : Instant}
    (found : after? seconds nanos = some t) :
    t.Plain ∧ t.seconds = seconds + (nanos / nanosPerSecond : Nat) ∧
      t.nanos = nanos % nanosPerSecond := by
  simp only [after?] at found
  split at found
  next ranges =>
    cases found
    refine ⟨⟨ranges.2, ?_⟩, rfl, rfl⟩
    exact Nat.mod_lt _ (by decide)
  next => cases found

theorem sinceEpoch_after {seconds : Int} {nanos : Nat} {t : Instant}
    (found : after? seconds nanos = some t) :
    t.sinceEpoch = seconds * nanosPerSecond + nanos := by
  obtain ⟨-, whole, part⟩ := after?_eq_some found
  simp only [sinceEpoch, whole, part, nanosPerSecond]
  omega

/-- What is written for `t` is read as `u`, whatever follows it. -/
def Returns (t u : Instant) : Prop :=
  ∃ written, Wire.write t = .ok written ∧
    ∀ rest, Reader.instant (written ++ rest) = .ok u rest

theorem write_eq (t : Instant) :
    Wire.write t = .ok (Bytes.ofInt 8 t.fold.seconds ++ Bytes.ofNat 4 t.fold.nanos) := rfl

theorem returns_fold {t : Instant} (valid : t.Valid) : Returns t t.fold := by
  have plain := plain_fold valid
  have read := Reader.reads_instant plain.valid plain.not_leap
  rw [plain.fold_eq] at read
  exact ⟨_, write_eq t, read.exact⟩

theorem Returns.unique {t u v : Instant} (first : Returns t u) (second : Returns t v) : u = v := by
  obtain ⟨b, wrote, read⟩ := first
  obtain ⟨c, wrote', read'⟩ := second
  rw [wrote] at wrote'
  cases wrote'
  have same := (read []).symm.trans (read' [])
  cases same
  rfl

theorem Returns.eq_fold {t u : Instant} (valid : t.Valid) (returns : Returns t u) : u = t.fold :=
  returns.unique (returns_fold valid)

theorem reads_pair {seconds : Int} {nanos : Nat} {t : Instant}
    (holds : IntType.i64.Holds seconds) (small : nanos < Bytes.span 4)
    (found : after? seconds nanos = some t) :
    Reader.Reads Reader.instant (Bytes.ofInt 8 seconds ++ Bytes.ofNat 4 nanos) t := by
  apply (Reader.reads_int holds).bind
  apply (Reader.reads_unsigned small).bind_pure
  rw [found]

theorem refuses_pair {seconds : Int} {nanos : Nat} (holds : IntType.i64.Holds seconds)
    (small : nanos < Bytes.span 4) (missing : after? seconds nanos = none) (rest : Bytes) :
    Reader.instant (Bytes.ofInt 8 seconds ++ Bytes.ofNat 4 nanos ++ rest) =
      .error (.invalidTimestamp seconds nanos) rest := by
  have first := (Reader.reads_int holds).exact (Bytes.ofNat 4 nanos ++ rest)
  have second := (Reader.reads_unsigned small).exact rest
  rw [List.append_assoc]
  refine (Reader.bind_ok first).trans ((Reader.bind_ok second).trans ?_)
  rw [missing]
  rfl

/-- The pair of numbers that a reader accepts makes up the instant it gives out. -/
theorem read_pair {seconds : Int} {nanos : Nat} {rest left : Bytes} {t : Instant}
    (holds : IntType.i64.Holds seconds) (small : nanos < Bytes.span 4)
    (read : Reader.instant (Bytes.ofInt 8 seconds ++ Bytes.ofNat 4 nanos ++ rest) = .ok t left) :
    after? seconds nanos = some t ∧ left = rest := by
  cases found : after? seconds nanos with
  | none => cases (refuses_pair holds small found rest).symm.trans read
  | some u =>
    cases ((reads_pair holds small found).exact rest).symm.trans read
    exact ⟨rfl, rfl⟩

/-- An instant comes back as it is, a leap second as the last nanosecond of its second; what has
come back once comes back the same, and no two instants change places. An accepted pair of seconds
and nanoseconds is the instant at that distance from the start of 1970, which is written with all
whole seconds carried over. -/
theorem wire_normal_form :
    (∀ t : Instant, t.Valid →
      Returns t (if t.IsLeap then ⟨t.seconds, nanosPerSecond - 1⟩ else t)) ∧
    (∀ t u v : Instant, Returns t u → Returns t v → u = v) ∧
    (∀ t u : Instant, t.Valid → Returns t u → Returns u u) ∧
    (∀ t t' u u' : Instant, t.Valid → t'.Valid → Returns t u → Returns t' u' →
      t ≤ t' → u ≤ u') ∧
    ∀ (seconds : Int) (nanos : Nat) (rest left : Bytes) (t : Instant),
      IntType.i64.Holds seconds → nanos < Bytes.span 4 →
      Reader.instant (Bytes.ofInt 8 seconds ++ Bytes.ofNat 4 nanos ++ rest) = .ok t left →
      left = rest ∧ t.Valid ∧ ¬ t.IsLeap ∧
        t.sinceEpoch = seconds * nanosPerSecond + nanos ∧
        Wire.write t = .ok (Bytes.ofInt 8 (seconds + (nanos / nanosPerSecond : Nat)) ++
          Bytes.ofNat 4 (nanos % nanosPerSecond)) := by
  refine ⟨?_, ?_, ?_, ?_, ?_⟩
  · intro t valid
    rw [← fold_eq_ite]
    exact returns_fold valid
  · intro t u v first second
    exact first.unique second
  · intro t u valid returns
    have plain := plain_fold valid
    have again := returns_fold plain.valid
    rw [plain.fold_eq] at again
    rwa [returns.eq_fold valid]
  · intro t t' u u' valid valid' returns returns' le
    rw [returns.eq_fold valid, returns'.eq_fold valid']
    exact fold_mono le
  · intro seconds nanos rest left t holds small read
    obtain ⟨found, rfl⟩ := read_pair holds small read
    obtain ⟨plain, whole, part⟩ := after?_eq_some found
    refine ⟨rfl, plain.valid, plain.not_leap, sinceEpoch_after found, ?_⟩
    rw [write_eq, plain.fold_eq, whole, part]

/-- The last second before 1970 is a leap second here; a pair carries three seconds over. -/
theorem wire_normal_form_around_epoch :
    let leap : Instant := ⟨-1, 1500000000⟩
    let epoch : Instant := ⟨0, 0⟩
    let pair := Bytes.ofInt 8 (-2) ++ Bytes.ofNat 4 3700000000 ++ [7]
    leap.Valid ∧ epoch.Valid ∧ leap ≤ epoch ∧
      Returns leap ⟨-1, 999999999⟩ ∧ Returns ⟨-1, 999999999⟩ ⟨-1, 999999999⟩ ∧
      Returns epoch epoch ∧ (⟨-1, 999999999⟩ : Instant) ≤ epoch ∧
      Reader.instant pair = .ok ⟨1, 700000000⟩ [7] ∧
      (⟨1, 700000000⟩ : Instant).sinceEpoch = -2 * nanosPerSecond + 3700000000 := by
  intro leap epoch pair
  obtain ⟨returned, -, idempotent, monotone, pairs⟩ := wire_normal_form
  have valid : leap.Valid := by decide
  have valid' : epoch.Valid := by decide
  have before : leap ≤ epoch := by decide
  have folded : Returns leap ⟨-1, 999999999⟩ := returned leap valid
  have same : Returns epoch epoch := returned epoch valid'
  have holds : IntType.i64.Holds (-2) := by decide
  have small : 3700000000 < Bytes.span 4 := by decide
  have read := (reads_pair holds small rfl).exact [7]
  have accepted := pairs (-2) 3700000000 [7] [7] _ holds small read
  exact ⟨valid, valid', before, folded, idempotent _ _ valid folded, same,
    monotone _ _ _ _ valid valid' folded same before, read, accepted.2.2.2.1⟩

/-! ### Which pairs are accepted -/

/-- The second at which a pair lies is in the range, but the seconds of the pair are before it. -/
def CarriedIn (seconds : Int) (nanos : Nat) : Prop :=
  seconds < earliest ∧ earliest ≤ seconds + (nanos / nanosPerSecond : Nat)

instance (seconds : Int) (nanos : Nat) : Decidable (CarriedIn seconds nanos) :=
  inferInstanceAs (Decidable (_ ∧ _))

theorem after?_of_inRange {seconds : Int} {nanos : Nat} (begun : ¬ CarriedIn seconds nanos)
    (range : InRange (seconds + (nanos / nanosPerSecond : Nat))) :
    after? seconds nanos =
      some ⟨seconds + (nanos / nanosPerSecond : Nat), nanos % nanosPerSecond⟩ := by
  obtain ⟨low, high⟩ := range
  have after : earliest ≤ seconds := Int.not_lt.mp fun before => begun ⟨before, low⟩
  have alone : seconds ≤ latest :=
    Int.le_trans (Int.le_add_of_nonneg_right (Int.natCast_nonneg _)) high
  exact if_pos ⟨⟨after, alone⟩, low, high⟩

theorem after?_of_not_inRange {seconds : Int} {nanos : Nat}
    (outside : ¬ InRange (seconds + (nanos / nanosPerSecond : Nat))) :
    after? seconds nanos = none :=
  if_neg fun ranges => outside ranges.2

theorem after?_of_carriedIn {seconds : Int} {nanos : Nat} (carried : CarriedIn seconds nanos) :
    after? seconds nanos = none :=
  if_neg fun ranges => Int.not_lt.mpr ranges.1.1 carried.1

/-- The nanoseconds of a pair make up four seconds at most. -/
theorem CarriedIn.inRange {seconds : Int} {nanos : Nat} (carried : CarriedIn seconds nanos)
    (small : nanos < Bytes.span 4) : InRange (seconds + (nanos / nanosPerSecond : Nat)) := by
  obtain ⟨before, low⟩ := carried
  have carry : nanos / nanosPerSecond ≤ 4 := by
    have size : Bytes.span 4 = 4294967296 := rfl
    simp only [nanosPerSecond]
    omega
  refine ⟨low, ?_⟩
  simp only [earliest, latest] at before ⊢
  omega

/-- A pair is accepted if the second at which it lies is in the range, and otherwise refused as it
stands. Only where the seconds alone are before the range, the nanoseconds do not help. -/
theorem accepted_unless_carried_in {seconds : Int} {nanos : Nat}
    (holds : IntType.i64.Holds seconds) (small : nanos < Bytes.span 4) (rest : Bytes) :
    let whole := seconds + (nanos / nanosPerSecond : Nat)
    let input := Bytes.ofInt 8 seconds ++ Bytes.ofNat 4 nanos ++ rest
    (¬ CarriedIn seconds nanos → InRange whole →
      Reader.instant input = .ok ⟨whole, nanos % nanosPerSecond⟩ rest) ∧
    (¬ InRange whole → Reader.instant input = .error (.invalidTimestamp seconds nanos) rest) ∧
    (CarriedIn seconds nanos → InRange whole ∧
      Reader.instant input = .error (.invalidTimestamp seconds nanos) rest) := by
  intro whole input
  refine ⟨?_, ?_, ?_⟩
  · intro begun range
    exact (reads_pair holds small (after?_of_inRange begun range)).exact rest
  · intro outside
    exact refuses_pair holds small (after?_of_not_inRange outside) rest
  · intro carried
    exact ⟨carried.inRange small, refuses_pair holds small (after?_of_carriedIn carried) rest⟩

/-- The ends of the range, and the last second before it with a whole second of nanoseconds. -/
theorem accepted_unless_carried_in_at_the_ends :
    let last := Bytes.ofInt 8 8210266876798 ++ Bytes.ofNat 4 1999999999 ++ [7]
    let late := Bytes.ofInt 8 8210266876799 ++ Bytes.ofNat 4 1000000000 ++ [7]
    let carried := Bytes.ofInt 8 (-8334601228801) ++ Bytes.ofNat 4 1000000000 ++ [7]
    Reader.instant last = .ok ⟨8210266876799, 999999999⟩ [7] ∧
      Reader.instant late = .error (.invalidTimestamp 8210266876799 1000000000) [7] ∧
      Reader.instant carried = .error (.invalidTimestamp (-8334601228801) 1000000000) [7] := by
  intro last late carried
  have before : IntType.i64.Holds 8210266876798 := by decide
  have ending : IntType.i64.Holds 8210266876799 := by decide
  have early : IntType.i64.Holds (-8334601228801) := by decide
  have almost : 1999999999 < Bytes.span 4 := by decide
  have whole : 1000000000 < Bytes.span 4 := by decide
  obtain ⟨accepted, -, -⟩ := accepted_unless_carried_in before almost [7]
  obtain ⟨-, refused, -⟩ := accepted_unless_carried_in ending whole [7]
  obtain ⟨-, -, carriedIn⟩ := accepted_unless_carried_in early whole [7]
  exact ⟨accepted (by decide) (by decide), refused (by decide), (carriedIn (by decide)).2⟩

/-- The first second of the range, as a pair that begins a second before it. -/
theorem carried_in_refused :
    let seconds : Int := -8334601228801
    let nanos : Nat := 1000000000
    IntType.i64.Holds seconds ∧ nanos < Bytes.span 4 ∧
      InRange (seconds + (nanos / nanosPerSecond : Nat)) ∧
      ¬ ∃ t rest, Reader.instant (Bytes.ofInt 8 seconds ++ Bytes.ofNat 4 nanos) = .ok t rest := by
  intro seconds nanos
  have holds : IntType.i64.Holds seconds := by decide
  have small : nanos < Bytes.span 4 := by decide
  have refused := refuses_pair holds small (by decide) []
  rw [List.append_nil] at refused
  refine ⟨holds, small, by decide, ?_⟩
  rintro ⟨t, rest, read⟩
  cases refused.symm.trans read

end Instant
end Boundary
