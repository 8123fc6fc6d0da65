import Boundary.Proofs.Wire.Reads
import Boundary.Wire.Encode

/-!
What an error says about its input. A reader takes bytes from the front and stops at the first that
it cannot accept: those are the last ones taken, and the error repeats them. Where too few are left,
it says how many, and leaves them.

`Tells` follows a reader through the bytes taken so far, with a rule for each way to put readers
together, so that every reader of a shape is covered by one case for each kind of shape.
-/
namespace Boundary

namespace Shape

def children : Shape → List Shape
  | .option s | .list s => [s]
  | .map k s => [k, s]
  | .record _ fields => fields
  | _ => []

/-- `t` is the shape itself or stands somewhere in it. -/
inductive Part (t : Shape) : Shape → Prop where
  | self : Part t t
  | inside {s u : Shape} (child : u ∈ s.children) (inner : Part t u) : Part t s

/-- A union of this name, which has no variant with the number that the word spells. An enumeration
has signed numbers; the tag of a record that is an only variant has no sign. -/
def Refuses (name : String) (value : Int) (word : Bytes) : Shape → Prop
  | .enum head =>
    head.name = name ∧ Bytes.toInt word = value ∧ ∀ v ∈ head.variants, v.number ≠ value
  | .record head _ =>
    head.name = name ∧ (Bytes.toNat word : Int) = value ∧
      ∃ tag : Nat, head.tag = some tag ∧ (tag : Int) ≠ value
  | _ => False

end Shape

namespace CodecError

/-- The error says of the bytes taken what the last of them are, and of the others how many there
are. `known` are the shapes that were to be read. -/
def Explains (known : Shape → Prop) (taken rest : Bytes) : CodecError → Prop
  | .truncated needed remaining => remaining = rest.length ∧ remaining < needed
  | .trailingBytes _ => False
  | .negativeLength n => n < 0 ∧ ∃ word, word.length = 4 ∧ word <:+ taken ∧ Bytes.toInt word = n
  | .invalidBool x | .invalidOptionFlag x =>
    1 < x ∧ ∃ byte : UInt8, [byte] <:+ taken ∧ byte.toNat = x
  | .invalidUtf8 =>
    ∃ text : Bytes, lengthPrefix text.length ++ text <:+ taken ∧ Bytes.toText? text = none
  | .unknownDiscriminant name value =>
    ∃ word s, word.length = 4 ∧ word <:+ taken ∧ known s ∧ s.Refuses name value word
  | .invalidTimestamp seconds nanos =>
    ∃ first last : Bytes, first.length = 8 ∧ last.length = 4 ∧ first ++ last <:+ taken ∧
      Bytes.toInt first = seconds ∧ Bytes.toNat last = nanos ∧ Instant.after? seconds nanos = none

end CodecError

namespace Reader
variable {α β : Type} {known : Shape → Prop} {before : Bytes → Prop}

/-- After bytes in `before`, a value of `r` comes with what was taken by then in `after`, and an
error explains itself. -/
def Tells (known : Shape → Prop) (before : Bytes → Prop) (r : Reader α)
    (after : α → Bytes → Prop) : Prop :=
  ∀ taken b, before taken → match r b with
    | .ok a rest => ∃ used, b = used ++ rest ∧ after a (taken ++ used)
    | .error e rest => ∃ used, b = used ++ rest ∧ e.Explains known (taken ++ used) rest

/-- The same wherever `r` starts, and whatever it takes for its value. -/
abbrev TellsAlways (known : Shape → Prop) (r : Reader α) : Prop :=
  Tells known (fun _ => True) r fun _ _ => True

/-- After bytes in `before`, `word` was taken for `a`. -/
def Spelled (before : Bytes → Prop) (width : Nat) (value : Bytes → α) (a : α)
    (taken : Bytes) : Prop :=
  ∃ earlier word, before earlier ∧ taken = earlier ++ word ∧ word.length = width ∧ value word = a

theorem tells_pure {after : α → Bytes → Prop} {a : α}
    (holds : ∀ taken, before taken → after a taken) : Tells known before (pure a) after := by
  intro taken b start
  exact ⟨[], rfl, by simpa using holds taken start⟩

theorem tells_throw {after : α → Bytes → Prop} {e : CodecError}
    (holds : ∀ taken rest, before taken → e.Explains known taken rest) :
    Tells known before (throw e : Reader α) after := by
  intro taken b start
  exact ⟨[], rfl, by simpa using holds taken b start⟩

theorem tells_stuck {after : α → Bytes → Prop} : Tells known before stuck after :=
  fun _ b _ => ⟨[], rfl, rfl, Nat.lt_succ_self b.length⟩

theorem Tells.bind {middle : α → Bytes → Prop} {after : β → Bytes → Prop} {r : Reader α}
    {next : α → Reader β} (first : Tells known before r middle)
    (second : ∀ a, Tells known (middle a) (next a) after) :
    Tells known before (r >>= next) after := by
  intro taken b start
  have began := first taken b start
  cases answer : r b with
  | error e rest =>
    rw [answer] at began
    rw [bind_error answer]
    exact began
  | ok a rest =>
    rw [answer] at began
    obtain ⟨used, rfl, reached⟩ := began
    rw [bind_ok answer]
    have ended := second a (taken ++ used) rest reached
    cases final : next a rest with
    | ok c left | error e left =>
      rw [final] at ended
      obtain ⟨more, rfl, holds⟩ := ended
      exact ⟨used ++ more, (List.append_assoc ..).symm, by rwa [← List.append_assoc]⟩

theorem Tells.map {middle : α → Bytes → Prop} {after : β → Bytes → Prop} {r : Reader α} {g : α → β}
    (first : Tells known before r middle)
    (holds : ∀ a taken, middle a taken → after (g a) taken) :
    Tells known before (do return g (← r)) after :=
  first.bind fun a => tells_pure (holds a)

/-- Where it starts does not matter. -/
theorem TellsAlways.after {r : Reader α} (always : TellsAlways known r) :
    Tells known before r fun _ _ => True :=
  fun taken b _ => always taken b trivial

theorem TellsAlways.map {r : Reader α} (always : TellsAlways known r) (g : α → β) :
    TellsAlways known (do return g (← r)) :=
  Tells.map always fun _ _ _ => trivial

theorem tells_take (width : Nat) :
    Tells known before (take width) (Spelled before width id) := by
  intro taken b start
  by_cases enough : width ≤ b.length
  · have size : (b.take width).length = width := List.length_take_of_le enough
    rw [take_of_le enough]
    exact ⟨b.take width, (List.take_append_drop width b).symm, taken, b.take width, start, rfl,
      size, rfl⟩
  · have short : b.length < width := Nat.lt_of_not_le enough
    rw [take_of_lt short]
    exact ⟨[], rfl, rfl, short⟩

theorem tells_word (width : Nat) (value : Bytes → α) :
    Tells known before (do return value (← take width)) (Spelled before width value) := by
  refine (tells_take width).map fun word taken => ?_
  rintro ⟨earlier, same, start, rfl, size, rfl⟩
  exact ⟨earlier, same, start, rfl, size, rfl⟩

theorem tells_byte : Tells known before byte (Spelled before 1 (·.headD 0)) := tells_word 1 _

theorem tells_unsigned (width : Nat) :
    Tells known before (unsigned width) (Spelled before width Bytes.toNat) := tells_word width _

theorem tells_signed (t : IntType) (signed : t.signed = true) :
    Tells known before (int t) (Spelled before t.width Bytes.toInt) := by
  unfold int
  simp only [signed, ↓reduceIte]
  exact tells_word t.width Bytes.toInt

theorem tellsAlways_int (t : IntType) : TellsAlways known (int t) :=
  (tells_take t.width).map fun _ _ _ => trivial

theorem Spelled.suffix {width : Nat} {value : Bytes → α} {a : α} {taken : Bytes}
    (spelled : Spelled before width value a taken) :
    ∃ word, word.length = width ∧ word <:+ taken ∧ value word = a := by
  obtain ⟨earlier, word, -, rfl, size, same⟩ := spelled
  exact ⟨word, size, List.suffix_append earlier word, same⟩

theorem Spelled.byte_suffix {d : UInt8} {taken : Bytes}
    (spelled : Spelled before 1 (·.headD 0) d taken) : [d] <:+ taken := by
  obtain ⟨word, size, suffix, rfl⟩ := spelled.suffix
  obtain ⟨d, rfl⟩ := List.length_eq_one_iff.mp size
  exact suffix

/-- A length that can be accepted comes from its own prefix. -/
theorem tells_length : Tells known before length
    fun n taken => ∃ earlier, before earlier ∧ taken = earlier ++ lengthPrefix n := by
  refine (tells_signed .i32 rfl).bind fun n => ?_
  by_cases negative : n < 0
  · rw [if_pos negative]
    exact tells_throw fun taken rest spelled => ⟨negative, spelled.suffix⟩
  · rw [if_neg negative]
    refine tells_pure fun taken spelled => ?_
    obtain ⟨earlier, word, start, rfl, size, same⟩ := spelled
    have whole : (n.toNat : Int) = n := Int.toNat_of_nonneg (Int.not_lt.mp negative)
    have written : lengthPrefix n.toNat = word := by
      have spells := Bytes.ofInt_toInt word
      rwa [size, same, ← whole] at spells
    exact ⟨earlier, start, by rw [written]⟩

/-- What is neither 0 nor 1 is greater. -/
theorem flag_gt_one {d : UInt8} (zero : d.toNat ≠ 0) (one : d.toNat ≠ 1) : 1 < d.toNat := by
  omega

theorem tellsAlways_bool : TellsAlways known bool := by
  refine tells_byte.bind fun d => ?_
  split
  · exact tells_pure fun _ _ => trivial
  · exact tells_pure fun _ _ => trivial
  next zero one =>
    exact tells_throw fun taken rest spelled =>
      ⟨flag_gt_one zero one, d, spelled.byte_suffix, rfl⟩

theorem tellsAlways_text : TellsAlways known text := by
  refine tells_length.bind fun n => (tells_take n).bind fun b => ?_
  split
  · exact tells_pure fun _ _ => trivial
  next refused =>
    refine tells_throw fun taken rest spelled => ?_
    obtain ⟨_, word, ⟨earlier, -, rfl⟩, rfl, size, rfl⟩ := spelled
    refine ⟨word, ?_, refused⟩
    rw [size, List.append_assoc]
    exact List.suffix_append ..

theorem tellsAlways_instant : TellsAlways known instant := by
  refine (tells_signed .i64 rfl).bind fun seconds => (tells_unsigned 4).bind fun nanos => ?_
  split
  · exact tells_pure fun _ _ => trivial
  next refused =>
    refine tells_throw fun taken rest spelled => ?_
    obtain ⟨_, last, ⟨earlier, first, -, rfl, eight, rfl⟩, rfl, four, rfl⟩ := spelled
    refine ⟨first, last, eight, four, ?_, rfl, rfl, refused⟩
    rw [List.append_assoc]
    exact List.suffix_append ..

theorem tellsAlways_tag {head : RecordHead} {fields : List Shape}
    (member : known (.record head fields)) : TellsAlways known (tag head) := by
  unfold tag
  cases tagged : head.tag with
  | none => exact tells_pure fun _ _ => trivial
  | some expected =>
    refine (tells_unsigned 4).bind fun found => ?_
    by_cases same : found = expected
    · rw [if_pos same]
      exact tells_pure fun _ _ => trivial
    · rw [if_neg same]
      refine tells_throw fun taken rest spelled => ?_
      obtain ⟨word, size, suffix, rfl⟩ := spelled.suffix
      have other : (expected : Int) ≠ Bytes.toNat word := by omega
      exact ⟨word, _, size, suffix, member, rfl, rfl, expected, tagged, other⟩

theorem tellsAlways_variant {head : EnumHead} (member : known (.enum head)) :
    TellsAlways known (variant head) := by
  refine (tells_signed .i32 rfl).bind fun number => ?_
  by_cases found : head.variants.any (·.number = number) = true
  · rw [if_pos found]
    exact tells_pure fun _ _ => trivial
  · rw [if_neg found]
    refine tells_throw fun taken rest spelled => ?_
    obtain ⟨word, size, suffix, same⟩ := spelled.suffix
    have other : ∀ v ∈ head.variants, v.number ≠ number := by simpa using found
    exact ⟨word, _, size, suffix, member, rfl, same, other⟩

theorem TellsAlways.times {r : Reader α} (always : TellsAlways known r) (n : Nat) :
    TellsAlways known (r.times n) := by
  induction n with
  | zero => exact tells_pure fun _ _ => trivial
  | succ n ih => exact always.bind fun a => ih.map (a :: ·)

theorem TellsAlways.unroll {body : Reader α → Reader α}
    (step : ∀ r, TellsAlways known r → TellsAlways known (body r)) (depth : Nat) :
    TellsAlways known (unroll body depth) := by
  induction depth with
  | zero => exact tells_stuck
  | succ depth ih => exact step _ ih

theorem TellsAlways.fix {body : Reader α → Reader α}
    (step : ∀ r, TellsAlways known r → TellsAlways known (body r)) :
    TellsAlways known (fix body) :=
  fun taken b start => TellsAlways.unroll step (b.length + 1) taken b start

end Reader

namespace Shape
open Reader

mutual
/-- Every shape inside is known, and so is what is referred back to. -/
theorem tellsAlways_reader {known : Shape → Prop} (s : Shape) {readers : List (Reader Value)}
    (inside : ∀ t, Part t s → known t) (around : ∀ n, TellsAlways known (readers.getD n stuck)) :
    TellsAlways known (s.reader readers) := by
  cases s with
  | int t => exact (tellsAlways_int t).map _
  | float t => exact (tells_unsigned t.width).map fun _ _ _ => trivial
  | bool => exact tellsAlways_bool.map _
  | text => exact tellsAlways_text.map _
  | bytes => exact tells_length.bind fun n => (tells_take n).map fun _ _ _ => trivial
  | instant => exact tellsAlways_instant.map _
  | option s =>
    have inner := tellsAlways_reader s (fun t part => inside t (.inside (.head _) part)) around
    refine tells_byte.bind fun d => ?_
    split
    · exact tells_pure fun _ _ => trivial
    · exact inner.after.map fun _ _ _ => trivial
    next zero one =>
      exact tells_throw fun taken rest spelled =>
        ⟨flag_gt_one zero one, d, spelled.byte_suffix, rfl⟩
  | list s =>
    have item := tellsAlways_reader s (fun t part => inside t (.inside (.head _) part)) around
    exact tells_length.bind fun n => (item.times n).after.map fun _ _ _ => trivial
  | map k s =>
    have key := tellsAlways_reader k (fun t part => inside t (.inside (.head _) part)) around
    have value :=
      tellsAlways_reader s (fun t part => inside t (.inside (.tail _ (.head _)) part)) around
    have entry : TellsAlways known (do return (← k.reader readers, ← s.reader readers)) :=
      key.bind fun found => value.map (Prod.mk found)
    exact tells_length.bind fun n => (entry.times n).after.map fun _ _ _ => trivial
  | record head fields =>
    refine TellsAlways.fix fun this inner => ?_
    refine Tells.bind (tellsAlways_tag (inside _ .self)) fun _ => ?_
    have deeper : ∀ n, TellsAlways known ((this :: readers).getD n stuck) := by
      intro n
      cases n with
      | zero => exact inner
      | succ n => exact around n
    have parts := tellsAlways_fieldsReader fields
      (fun t u child part => inside t (.inside child part)) deeper
    exact parts.map _
  | enum head => exact (tellsAlways_variant (inside _ .self)).map _
  | again distance => exact around distance
theorem tellsAlways_fieldsReader {known : Shape → Prop} (shapes : List Shape)
    {readers : List (Reader Value)} (inside : ∀ t, ∀ u ∈ shapes, Part t u → known t)
    (around : ∀ n, TellsAlways known (readers.getD n stuck)) :
    TellsAlways known (fieldsReader readers shapes) := by
  cases shapes with
  | nil => exact tells_pure fun _ _ => trivial
  | cons s shapes =>
    have first := tellsAlways_reader s (fun t part => inside t s (.head _) part) around
    have others := tellsAlways_fieldsReader shapes
      (fun t u member part => inside t u (.tail _ member) part) around
    exact first.bind fun v => others.map (v :: ·)
end

/-- Where a reader fails, it has taken the front of its input up to the cause, and the error tells
what that was: the last bytes taken, which could not stand for anything there, or that fewer are
left than the next part needs. That too many are left, no reader says. -/
theorem errors_point_at_cause {s : Shape} {b rest : Bytes} {e : CodecError}
    (failed : s.read b = .error e rest) :
    ∃ used, b = used ++ rest ∧ e.Explains (Part · s) used rest := by
  have told : TellsAlways (Part · s) s.read :=
    tellsAlways_reader s (fun _ part => part) fun _ => tells_stuck
  have explained := told [] b trivial
  rwa [failed] at explained

/-- The error of a reader, and what it leaves. -/
def refusal {α : Type} : EStateM.Result CodecError Bytes α → Option (CodecError × Bytes)
  | .ok .. => none
  | .error e rest => some (e, rest)

theorem eq_error_of_refusal {α : Type} {e : CodecError} {rest : Bytes}
    {result : EStateM.Result CodecError Bytes α} (refused : refusal result = some (e, rest)) :
    result = .error e rest := by
  cases result with
  | ok a left => cases refused
  | error f left =>
    cases refused
    rfl

/-- A record that contains itself, with an enumeration that may be absent. -/
def ballot : Shape :=
  .record ⟨"Ballot", "", none, []⟩
    [.option (.enum ⟨"Vote", "", [⟨"Yes", "", 1⟩, ⟨"No", "", 2⟩]⟩), .list (.again 0)]

/-- Two votes below one that is absent; the second of them is of no known kind. -/
def ballotBytes : Bytes :=
  [0, 0, 0, 0, 2, 1, 0, 0, 0, 2, 0, 0, 0, 0, 1, 0, 0, 0, 3, 0, 9]

theorem errors_point_at_cause_ballot :
    ballot.read ballotBytes = .error (.unknownDiscriminant "Vote" 3) [0, 9] ∧
      ∃ used, ballotBytes = used ++ [0, 9] ∧
        (CodecError.unknownDiscriminant "Vote" 3).Explains (Part · ballot) used [0, 9] := by
  have failed : ballot.read ballotBytes = .error (.unknownDiscriminant "Vote" 3) [0, 9] :=
    eq_error_of_refusal (by decide +kernel)
  exact ⟨failed, errors_point_at_cause failed⟩

end Shape
end Boundary
