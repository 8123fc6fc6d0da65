import Boundary.Native.Buffer
import Boundary.Payload.Jwk
import Boundary.Proofs.Text.ByteLength
import Boundary.Proofs.Wire.Progress
/-!
How long the text of an error can get. What it tells of the bytes in a buffer are lengths there, or
stands there itself as a byte or as a length prefix, so that no number has more than ten digits.
-/
namespace Boundary

namespace CodecError

/-- No number in the error is greater than a length of a buffer. Only errors that byte strings,
texts and records of them can end in are meant. -/
def Brief : CodecError → Prop
  | .truncated needed remaining => needed ≤ maxRegion ∧ remaining ≤ maxRegion
  | .trailingBytes n | .invalidOptionFlag n => n ≤ maxRegion
  | .negativeLength n => n.natAbs ≤ maxRegion
  | .invalidUtf8 => True
  | _ => False

theorem length_of_number {n : Nat} (small : n ≤ maxRegion) :
    (Bytes.ofText (toString n)).length ≤ 40 := by
  have below : n < Nat.pow 10 10 := Nat.lt_of_le_of_lt small (by decide)
  exact Bytes.length_ofText_nat (by decide) below

theorem length_truncated {needed remaining : Nat} (first : needed ≤ maxRegion)
    (second : remaining ≤ maxRegion) :
    (Bytes.ofText (truncated needed remaining).message).length ≤ 128 := by
  have text : (truncated needed remaining).message = "truncated buffer: needed " ++
      toString needed ++ " bytes, " ++ toString remaining ++ " remaining" := rfl
  have words : (Bytes.ofText "truncated buffer: needed ").length +
      (Bytes.ofText " bytes, ").length + (Bytes.ofText " remaining").length = 43 := by decide
  have digits := length_of_number first
  have others := length_of_number second
  simp only [text, Bytes.length_ofText_append]
  omega

theorem length_trailingBytes {n : Nat} (small : n ≤ maxRegion) :
    (Bytes.ofText (trailingBytes n).message).length ≤ 128 := by
  have text : (trailingBytes n).message =
      toString n ++ " trailing bytes remain after lifting value" := rfl
  have words : (Bytes.ofText " trailing bytes remain after lifting value").length = 42 := by decide
  have digits := length_of_number small
  rw [text, Bytes.length_ofText_append]
  omega

theorem length_invalidOptionFlag {n : Nat} (small : n ≤ maxRegion) :
    (Bytes.ofText (invalidOptionFlag n).message).length ≤ 128 := by
  have text : (invalidOptionFlag n).message =
      "invalid optional presence flag: " ++ toString n := rfl
  have words : (Bytes.ofText "invalid optional presence flag: ").length = 32 := by decide
  have digits := length_of_number small
  rw [text, Bytes.length_ofText_append]
  omega

theorem length_negativeLength {n : Int} (small : n.natAbs ≤ maxRegion) :
    (Bytes.ofText (negativeLength n).message).length ≤ 128 := by
  have text : (negativeLength n).message = "negative length prefix: " ++ toString n := rfl
  have words : (Bytes.ofText "negative length prefix: ").length = 24 := by decide
  have below : n.natAbs < Nat.pow 10 10 := Nat.lt_of_le_of_lt small (by decide)
  have digits := Bytes.length_ofText_int (by decide) below
  rw [text, Bytes.length_ofText_append]
  omega

theorem Brief.length_message {e : CodecError} (brief : e.Brief) :
    (Bytes.ofText e.message).length ≤ 128 := by
  cases e with
  | truncated needed remaining => exact length_truncated brief.1 brief.2
  | trailingBytes n => exact length_trailingBytes brief
  | negativeLength n => exact length_negativeLength brief
  | invalidOptionFlag n => exact length_invalidOptionFlag brief
  | invalidUtf8 => decide
  | invalidBool | unknownDiscriminant | invalidTimestamp => cases brief

end CodecError

namespace Reader
variable {α β : Type} {after : α → Prop} {r : Reader α}

/-- On no more bytes than a buffer holds, an error of `r` is brief. A value is in `after`, and no
more bytes are left than a buffer holds. -/
def Briefly (r : Reader α) (after : α → Prop) : Prop :=
  ∀ b : Bytes, b.length ≤ maxRegion → match r b with
    | .ok a rest => after a ∧ rest.length ≤ maxRegion
    | .error e _ => e.Brief

theorem briefly_pure {a : α} (holds : after a) : Briefly (pure a) after :=
  fun _ fits => ⟨holds, fits⟩

theorem briefly_throw {e : CodecError} (brief : e.Brief) : Briefly (throw e : Reader α) after :=
  fun _ _ => brief

theorem Briefly.bind {next : α → Reader β} {last : β → Prop} (first : Briefly r after)
    (second : ∀ a, after a → Briefly (next a) last) : Briefly (r >>= next) last := by
  intro b fits
  have began := first b fits
  cases answer : r b with
  | error e rest =>
    rw [answer] at began
    rw [bind_error answer]
    exact began
  | ok a rest =>
    rw [answer] at began
    rw [bind_ok answer]
    exact second a began.1 rest began.2

theorem Briefly.map {last : β → Prop} {g : α → β} (first : Briefly r after)
    (holds : ∀ a, after a → last (g a)) : Briefly (do return g (← r)) last :=
  first.bind fun a known => briefly_pure (holds a known)

theorem briefly_take {n : Nat} (small : n ≤ maxRegion) :
    Briefly (take n) fun b => b.length = n := by
  intro b fits
  by_cases enough : n ≤ b.length
  · rw [take_of_le enough]
    refine ⟨List.length_take_of_le enough, ?_⟩
    rw [List.length_drop]
    omega
  · rw [take_of_lt (Nat.lt_of_not_le enough)]
    exact ⟨small, fits⟩

theorem briefly_length : Briefly length fun n => n ≤ maxRegion := by
  have word : Briefly (int .i32) IntType.i32.Holds :=
    (briefly_take (by decide)).map fun b size => IntType.holds_of_word .i32 size
  refine word.bind fun n holds => ?_
  obtain ⟨low, high⟩ := IntType.i32_holds_iff.1 holds
  by_cases negative : n < 0
  · rw [if_pos negative]
    refine briefly_throw ?_
    change n.natAbs ≤ maxRegion
    unfold maxRegion
    omega
  · rw [if_neg negative]
    refine briefly_pure ?_
    unfold maxRegion
    omega

theorem briefly_text : Briefly text fun _ => True := by
  refine briefly_length.bind fun n small => (briefly_take small).bind fun b _ => ?_
  split
  · exact briefly_pure trivial
  · exact briefly_throw trivial

end Reader

namespace Shape
open Reader

theorem briefly_bytes (enclosing : List (Reader Value)) :
    Briefly (reader enclosing .bytes) fun _ => True :=
  briefly_length.bind fun _ small => (briefly_take small).map fun _ _ => trivial

theorem briefly_option {s : Shape} {enclosing : List (Reader Value)}
    (inner : Briefly (reader enclosing s) fun _ => True) :
    Briefly (reader enclosing (.option s)) fun _ => True := by
  have flag : Briefly byte fun _ => True := (briefly_take (by decide)).map fun _ _ => trivial
  refine flag.bind fun d _ => ?_
  split
  · exact briefly_pure trivial
  · exact inner.map fun _ _ => trivial
  · refine briefly_throw ?_
    have digit := d.toNat_lt
    change d.toNat ≤ maxRegion
    unfold maxRegion
    omega

theorem briefly_fieldsReader {enclosing : List (Reader Value)} {shapes : List Shape}
    (each : ∀ s ∈ shapes, Briefly (reader enclosing s) fun _ => True) :
    Briefly (fieldsReader enclosing shapes) fun _ => True := by
  induction shapes with
  | nil => exact briefly_pure trivial
  | cons s shapes ih =>
    obtain ⟨first, rest⟩ := List.forall_mem_cons.1 each
    exact first.bind fun _ _ => (ih rest).map fun _ _ => trivial

/-- A record without a tag. What it says of itself inside its own fields does not matter. -/
theorem briefly_record {head : RecordHead} {fields : List Shape} (untagged : head.tag = none)
    (each : ∀ enclosing, ∀ s ∈ fields, Briefly (reader enclosing s) fun _ => True) :
    Briefly (read (.record head fields)) fun _ => True := by
  have body (this : Reader Value) : Briefly (recordBody [] head fields this) fun _ => True := by
    have tag : Briefly (Reader.tag head) fun _ => True := by
      unfold Reader.tag
      rw [untagged]
      exact briefly_pure trivial
    refine tag.bind fun _ _ => ?_
    exact (briefly_fieldsReader (each [this])).map fun _ _ => trivial
  intro b fits
  exact body (unroll (recordBody [] head fields) b.length) b fits

end Shape

namespace Wire
variable {α : Type} {b : Bytes} {e : CodecError}

/-- The error of a whole buffer. -/
theorem brief_of_lift [Wire α] (other : Wire.shape α ≠ .text)
    (briefly : (Wire.shape α).read.Briefly fun _ => True) (fits : b.length ≤ maxRegion)
    (unreadable : Wire.lift α b = .error e) : e.Brief := by
  have told := briefly b fits
  unfold Wire.lift at unreadable
  rw [Shape.lift_of_ne_text other] at unreadable
  cases read : (Wire.shape α).read b with
  | error e' rest =>
    rw [read] at unreadable told
    cases unreadable
    exact told
  | ok v rest =>
    rw [read] at unreadable told
    cases rest with
    | nil => cases unreadable
    | cons x rest =>
      cases unreadable
      exact told.2

theorem brief_of_lift_bytes (fits : b.length ≤ maxRegion)
    (unreadable : Wire.lift Bytes b = .error e) : e.Brief := by
  have other : Shape.bytes ≠ .text := nofun
  have briefly : (Wire.shape Bytes).read.Briefly fun _ => True := Shape.briefly_bytes []
  exact brief_of_lift other briefly fits unreadable

theorem brief_of_lift_jwk (fits : b.length ≤ maxRegion)
    (unreadable : Wire.lift Jwk b = .error e) : e.Brief := by
  have other : Wire.shape Jwk ≠ .text := fun same => by cases same
  refine brief_of_lift other (Shape.briefly_record rfl fun enclosing s field => ?_) fits unreadable
  have text : (Shape.reader enclosing .text).Briefly fun _ => True :=
    Reader.briefly_text.map fun _ _ => trivial
  have each : s = .text ∨ s = .option .text := by
    change s ∈ [.option .text, .text, .text, .option .text, .text, .option .text] at field
    simp only [List.mem_cons, List.not_mem_nil, or_false] at field
    tauto
  rcases each with rfl | rfl
  · exact text
  · exact Shape.briefly_option text

end Wire
end Boundary
