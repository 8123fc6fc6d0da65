import Boundary.Proofs.Wire.Reads

/-!
Cutting bytes off and adding some. What a reader answers is settled by the bytes it takes: more
bytes behind them change nothing, unless it had run out of input.
-/
namespace Boundary

def CodecError.IsTruncated (e : CodecError) : Prop :=
  ∃ needed remaining, e = .truncated needed remaining

namespace Reader
variable {α β : Type}

/-- What `r` leaves is the end of its input, and `more` gives the same answer when anything is
added there, unless `r` ran out of input. -/
def Extends (r more : Reader α) : Prop :=
  ∀ b x : Bytes, match r b with
    | .ok a rest => rest <:+ b ∧ more (b ++ x) = .ok a (rest ++ x)
    | .error e rest => rest <:+ b ∧ (e.IsTruncated ∨ more (b ++ x) = .error e (rest ++ x))

theorem extends_pure (a : α) : Extends (pure a) (pure a) :=
  fun b _ => ⟨List.suffix_refl b, rfl⟩

theorem extends_throw (e : CodecError) : Extends (throw e : Reader α) (throw e) :=
  fun b _ => ⟨List.suffix_refl b, .inr rfl⟩

theorem extends_stuck (more : Reader α) : Extends stuck more :=
  fun b _ => ⟨List.suffix_refl b, .inl ⟨_, _, rfl⟩⟩

theorem extends_take (n : Nat) : Extends (take n) (take n) := by
  intro b x
  by_cases enough : n ≤ b.length
  · have longer : n ≤ (b ++ x).length := by
      rw [List.length_append]
      omega
    have front : (b ++ x).take n = b.take n := List.take_append_of_le_length enough
    have back : (b ++ x).drop n = b.drop n ++ x := List.drop_append_of_le_length enough
    rw [take_of_le enough, take_of_le longer, front, back]
    exact ⟨List.drop_suffix n b, rfl⟩
  · rw [take_of_lt (Nat.lt_of_not_le enough)]
    exact ⟨List.suffix_refl b, .inl ⟨n, b.length, rfl⟩⟩

theorem Extends.bind {r more : Reader α} {next later : α → Reader β} (first : Extends r more)
    (second : ∀ a, Extends (next a) (later a)) : Extends (r >>= next) (more >>= later) := by
  intro b x
  have start := first b x
  cases answer : r b with
  | ok a rest =>
    rw [answer] at start
    obtain ⟨suffix, same⟩ := start
    have finish := second a rest x
    rw [bind_ok answer, bind_ok same]
    cases final : next a rest with
    | ok c left =>
      rw [final] at finish
      exact ⟨finish.1.trans suffix, finish.2⟩
    | error e left =>
      rw [final] at finish
      exact ⟨finish.1.trans suffix, finish.2⟩
  | error e rest =>
    rw [answer] at start
    rw [bind_error answer]
    obtain ⟨suffix, truncated | same⟩ := start
    · exact ⟨suffix, .inl truncated⟩
    · exact ⟨suffix, .inr (bind_error same)⟩

theorem Extends.map {r more : Reader α} (h : Extends r more) (g : α → β) :
    Extends (do return g (← r)) (do return g (← more)) :=
  h.bind fun a => extends_pure (g a)

theorem extends_byte : Extends byte byte := (extends_take 1).map _

theorem extends_unsigned (width : Nat) : Extends (unsigned width) (unsigned width) :=
  (extends_take width).map _

theorem extends_int (t : IntType) : Extends (int t) (int t) :=
  (extends_take t.width).bind fun _ => extends_pure _

theorem extends_length : Extends length length := by
  refine (extends_int .i32).bind fun n => ?_
  split
  · exact extends_throw _
  · exact extends_pure _

theorem extends_bool : Extends bool bool := by
  refine extends_byte.bind fun b => ?_
  split
  · exact extends_pure false
  · exact extends_pure true
  · exact extends_throw _

theorem extends_text : Extends text text := by
  refine extends_length.bind fun n => (extends_take n).bind fun b => ?_
  split
  · exact extends_pure _
  · exact extends_throw _

theorem extends_instant : Extends instant instant := by
  refine (extends_int .i64).bind fun seconds => (extends_unsigned 4).bind fun nanos => ?_
  split
  · exact extends_pure _
  · exact extends_throw _

theorem extends_tag (head : RecordHead) : Extends (tag head) (tag head) := by
  unfold tag
  split
  · exact extends_pure ()
  · refine (extends_unsigned 4).bind fun found => ?_
    split
    · exact extends_pure ()
    · exact extends_throw _

theorem extends_variant (head : EnumHead) : Extends (variant head) (variant head) := by
  refine (extends_int .i32).bind fun number => ?_
  split
  · exact extends_pure _
  · exact extends_throw _

theorem Extends.times {r more : Reader α} (h : Extends r more) (n : Nat) :
    Extends (r.times n) (more.times n) := by
  induction n with
  | zero => exact extends_pure []
  | succ n ih => exact h.bind fun a => ih.map (a :: ·)

/-- More levels extend fewer: the innermost one only ever runs out of input. -/
theorem Extends.unroll {body outer : Reader α → Reader α}
    (step : ∀ r more, Extends r more → Extends (body r) (outer more)) (depth extra : Nat) :
    Extends (unroll body depth) (unroll outer (depth + extra)) := by
  induction depth with
  | zero => exact extends_stuck _
  | succ depth ih =>
    rw [Nat.add_right_comm]
    exact step _ _ ih

theorem Extends.fix {body outer : Reader α → Reader α}
    (step : ∀ r more, Extends r more → Extends (body r) (outer more)) :
    Extends (fix body) (fix outer) := by
  intro b x
  have deeper := Extends.unroll step (b.length + 1) x.length b x
  have depth : (b ++ x).length + 1 = b.length + 1 + x.length := by
    rw [List.length_append]
    omega
  simpa only [Reader.fix, depth] using deeper

end Reader

namespace Shape
open Reader

mutual
theorem extends_reader (s : Shape) {readers others : List (Reader Value)}
    (around : ∀ n, Extends (readers.getD n stuck) (others.getD n stuck)) :
    Extends (s.reader readers) (s.reader others) := by
  cases s with
  | int t => exact (extends_int t).map _
  | float t => exact (extends_unsigned t.width).map _
  | bool => exact extends_bool.map _
  | text => exact extends_text.map _
  | bytes => exact extends_length.bind fun n => (extends_take n).map _
  | instant => exact extends_instant.map _
  | option s =>
    refine extends_byte.bind fun b => ?_
    split
    · exact extends_pure _
    · exact (extends_reader s around).map _
    · exact extends_throw _
  | list s => exact extends_length.bind fun n => ((extends_reader s around).times n).map _
  | map k s =>
    have entry : Extends (do return (← k.reader readers, ← s.reader readers))
        (do return (← k.reader others, ← s.reader others)) :=
      (extends_reader k around).bind fun key => (extends_reader s around).map (Prod.mk key)
    exact extends_length.bind fun n => (entry.times n).map _
  | record head fields =>
    refine Extends.fix fun this more inner => (extends_tag head).bind fun _ => ?_
    have inside :
        ∀ n, Extends ((this :: readers).getD n stuck) ((more :: others).getD n stuck) := by
      intro n
      cases n with
      | zero => exact inner
      | succ n => exact around n
    exact (extends_fieldsReader fields inside).map _
  | enum head => exact (extends_variant head).map _
  | again distance => exact around distance
theorem extends_fieldsReader (shapes : List Shape) {readers others : List (Reader Value)}
    (around : ∀ n, Extends (readers.getD n stuck) (others.getD n stuck)) :
    Extends (fieldsReader readers shapes) (fieldsReader others shapes) := by
  cases shapes with
  | nil => exact extends_pure []
  | cons s shapes =>
    exact (extends_reader s around).bind fun v => (extends_fieldsReader shapes around).map (v :: ·)
end

theorem extends_read (s : Shape) : Extends s.read s.read :=
  extends_reader s fun _ => extends_stuck _

theorem read_ok_append {s : Shape} {b rest : Bytes} {v : Value} (read : s.read b = .ok v rest) :
    rest <:+ b ∧ ∀ x, s.read (b ++ x) = .ok v (rest ++ x) := by
  have stable := extends_read s b
  simp only [read] at stable
  exact ⟨(stable []).1, fun x => (stable x).2⟩

theorem read_error_append {s : Shape} {b rest : Bytes} {e : CodecError}
    (read : s.read b = .error e rest) (complete : ¬ e.IsTruncated) :
    rest <:+ b ∧ ∀ x, s.read (b ++ x) = .error e (rest ++ x) := by
  have stable := extends_read s b
  simp only [read] at stable
  exact ⟨(stable []).1, fun x => (stable x).2.resolve_left complete⟩

theorem lift_of_ne_text {s : Shape} (other : s ≠ .text) (b : Bytes) :
    s.lift b = match s.read b with
      | .ok v [] => .ok v
      | .ok _ rest => .error (.trailingBytes rest.length)
      | .error e _ => .error e := by
  unfold lift
  split
  · exact absurd rfl other
  · rfl

theorem lift_ok_iff {s : Shape} (other : s ≠ .text) {b : Bytes} {v : Value} :
    s.lift b = .ok v ↔ s.read b = .ok v [] := by
  rw [lift_of_ne_text other]
  constructor
  · intro lifted
    split at lifted
    · cases lifted
      assumption
    · cases lifted
    · cases lifted
  · intro read
    rw [read]

theorem lift_append {s : Shape} (other : s ≠ .text) {b : Bytes} {v : Value}
    (lifted : s.lift b = .ok v) {x : Bytes} (more : x ≠ []) :
    s.lift (b ++ x) = .error (.trailingBytes x.length) := by
  have longer := (read_ok_append ((lift_ok_iff other).mp lifted)).2 x
  rw [lift_of_ne_text other, longer]
  cases x with
  | nil => exact absurd rfl more
  | cons => rfl

/-- Any other answer on the shorter input would still stand with the bytes put back. -/
theorem lift_cut {s : Shape} (other : s ≠ .text) {b cut : Bytes} {v : Value}
    (lifted : s.lift b = .ok v) (front : cut <+: b) (shorter : cut ≠ b) :
    ∃ needed remaining, s.lift cut = .error (.truncated needed remaining) := by
  obtain ⟨lost, rfl⟩ := front
  have whole := (lift_ok_iff other).mp lifted
  have missing : lost ≠ [] := by
    rintro rfl
    exact shorter (List.append_nil cut).symm
  cases read : s.read cut with
  | ok w rest =>
    have same := (read_ok_append read).2 lost
    rw [whole] at same
    injection same with _ left
    exact absurd (List.append_eq_nil_iff.mp left.symm).2 missing
  | error e rest =>
    by_cases truncated : e.IsTruncated
    · obtain ⟨needed, remaining, rfl⟩ := truncated
      refine ⟨needed, remaining, ?_⟩
      rw [lift_of_ne_text other, read]
    · have same := (read_error_append read truncated).2 lost
      rw [whole] at same
      cases same

/-- Bytes behind those that a reader took are never looked at, so an answer stands whatever is
added, unless the input had ended too early. A buffer that is accepted has no accepted prefix and
no accepted extension. A text by itself is the exception, since it has no length of its own. -/
theorem answers_stand_under_append (s : Shape) (b : Bytes) :
    (∀ v rest, s.read b = .ok v rest →
      ∃ used, b = used ++ rest ∧ ∀ x, s.read (b ++ x) = .ok v (rest ++ x)) ∧
    (∀ e rest, s.read b = .error e rest → ¬ e.IsTruncated →
      ∃ used, b = used ++ rest ∧ ∀ x, s.read (b ++ x) = .error e (rest ++ x)) ∧
    (s ≠ .text → ∀ v, s.lift b = .ok v →
      (∀ cut, cut <+: b → cut ≠ b →
        ∃ needed remaining, s.lift cut = .error (.truncated needed remaining)) ∧
      ∀ x, x ≠ [] → s.lift (b ++ x) = .error (.trailingBytes x.length)) := by
  refine ⟨?_, ?_, ?_⟩
  · intro v rest read
    obtain ⟨⟨used, split⟩, stands⟩ := read_ok_append read
    exact ⟨used, split.symm, stands⟩
  · intro e rest read complete
    obtain ⟨⟨used, split⟩, stands⟩ := read_error_append read complete
    exact ⟨used, split.symm, stands⟩
  · intro other v lifted
    exact ⟨fun cut front shorter => lift_cut other lifted front shorter,
      fun x more => lift_append other lifted more⟩

/-- A map with one key twice, and nanoseconds beyond a second: nothing that was ever written. -/
def strangeMap : Bytes :=
  [0, 0, 0, 2, 7, 0, 0, 0, 0, 0, 0, 0, 0, 255, 255, 255, 255,
    7, 0, 0, 0, 0, 0, 0, 0, 0, 59, 154, 202, 0]

theorem eq_ok_of_toOption {ε α : Type} {x : Except ε α} {a : α} (h : x.toOption = some a) :
    x = .ok a := by
  cases x with
  | ok b =>
    cases h
    rfl
  | error e => cases h

theorem strangeMap_neither_cut_nor_extended :
    (Shape.map (.int .u8) .instant).lift strangeMap =
        .ok (.map [(.int .u8 7, .instant ⟨1, 0⟩)]) ∧
      (∃ needed remaining, (Shape.map (.int .u8) .instant).lift (strangeMap.take 17) =
        .error (.truncated needed remaining)) ∧
      (Shape.map (.int .u8) .instant).lift (strangeMap ++ [0, 0]) = .error (.trailingBytes 2) := by
  have lifted : (Shape.map (.int .u8) .instant).lift strangeMap =
      .ok (.map [(.int .u8 7, .instant ⟨1, 0⟩)]) := eq_ok_of_toOption (by decide +kernel)
  have both := (answers_stand_under_append (.map (.int .u8) .instant) strangeMap).2.2 nofun _ lifted
  exact ⟨lifted, both.1 _ (List.take_prefix 17 strangeMap) (by decide), both.2 [0, 0] (by decide)⟩

end Shape
end Boundary
