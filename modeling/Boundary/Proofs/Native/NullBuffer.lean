import Boundary.Native.Resident
import Boundary.Proofs.Native.Envelope
import Boundary.Proofs.Native.Verification

/-!
The null buffer. A value without bytes takes it across the boundary instead of a buffer of the
core, so that nothing is copied and nothing has to go back. On the other side it is read like a
buffer that is empty: what comes of either is what the codec says of no bytes at all.

The calls to the core are counted by a core that lists them. Only what can be lent gets that far;
the bytes of a longer value are refused on the way.
-/
namespace Boundary

/-- A call to one of the entry points for buffers. -/
inductive BufferCall where
  | allocate (b : Bytes)
  | reclaim (b : Buffer)
  deriving DecidableEq, Repr

namespace Core
open Run
variable {σ : Type} {core : Core σ} {s : Shape} {v : Value} {b : Buffer} {bytes whole : Bytes}

/-- What can be lent is copied as it is, and no call reports anything but success. -/
structure Copies (core : Core σ) : Prop where
  quiet : Quiet core
  allocate_status : ∀ bytes p, bytes.length ≤ maxLength →
    (core.allocate bytes p).1.status = Status.initial
  allocate_content : ∀ bytes p, bytes.length ≤ maxLength →
    (core.allocate bytes p).1.value.content = bytes

theorem copies_resident : Copies (resident : Core σ) where
  quiet := quiet_resident
  allocate_status _ _ _ := rfl
  allocate_content bytes p lent := by
    change (Buffer.copyOf bytes).content = bytes
    rw [Buffer.copyOf_of_le (Nat.le_trans lent (by decide))]
    rfl

/-- The same core, which lists the calls to its entry points for buffers. -/
def listed (core : Core σ) : Core (σ × List BufferCall) where
  space := core.space
  allocate bytes p :=
    let (reply, q) := core.allocate bytes p.1
    (reply, q, p.2 ++ [.allocate bytes])
  reclaim b p :=
    let (status, q) := core.reclaim b p.1
    (status, q, p.2 ++ [.reclaim b])
  version p :=
    let (reply, q) := core.version p.1
    (reply, q, p.2)
  checksums := core.checksums.map fun (name, entry) => (name, fun p =>
    let (reply, q) := entry p.1
    (reply, q, p.2))
  backlog p := core.backlog p.1
  backlog_reclaim b p := core.backlog_reclaim b p.1

theorem Copies.listed (copies : core.Copies) : core.listed.Copies where
  quiet b p := copies.quiet b p.1
  allocate_status bytes p := copies.allocate_status bytes p.1
  allocate_content bytes p := copies.allocate_content bytes p.1

/-! ### Lowering -/

theorem lower_eq_lowerBytes (lowered : v.lower = .ok whole) :
    core.lower v = core.lowerBytes whole := by
  unfold lower
  rw [lowered]

theorem lowerBytes_nil (p : σ) : core.lowerBytes [] p = .ok .null p := rfl

theorem Copies.lowerBytes_eq (copies : core.Copies) (some : bytes ≠ [])
    (fits : bytes.length ≤ maxLength) (p : σ) :
    core.lowerBytes bytes p = .ok (core.allocate bytes p).1.value (core.allocate bytes p).2 := by
  obtain ⟨view, viewed, same⟩ := View.ofBytes_of_le fits
  have success := copies.allocate_status bytes p fits
  have called := copies.quiet.call_eq
    (show Run.change (core.allocate bytes) p = .ok (core.allocate bytes p).1 _ from rfl)
  rw [success] at called
  have plain : (core.allocate bytes p).1.plain = .ok (core.allocate bytes p).1.value := by
    rw [Reply.plain, success]
    rfl
  rw [plain] at called
  unfold lowerBytes
  rw [if_neg (by simpa using some), viewed]
  dsimp only
  rw [same]
  exact called

/-! ### Lifting -/

/-- The state after a buffer has gone back, unless it is null. -/
def afterReturn (core : Core σ) (b : Buffer) (p : σ) : σ :=
  if b.isNull then p else (core.reclaim b p).2

theorem Quiet.release_eq (quiet : Quiet core) (b : Buffer) (p : σ) :
    core.release b p = .ok () (core.afterReturn b p) := by
  cases b with
  | null => rfl
  | region content fits =>
    have owned : Buffer.region content fits ≠ .null := by simp
    rw [release_of_ne_null owned, quiet, settle_of_success _ rfl]
    rfl

theorem Quiet.lift_eq (quiet : Quiet core) (s : Shape) (b : Buffer) (p : σ) :
    core.lift s b p = ending ((lifted s b).mapError .fault) (core.afterReturn b p) :=
  Core.lift_eq (show _ = ending (.ok ()) _ from quiet.release_eq b p)

/-! ### There and back -/

/-- The calls that making a buffer takes. -/
def making (whole : Bytes) : List BufferCall := if whole = [] then [] else [.allocate whole]

/-- The calls that giving a buffer back takes. -/
def returning (b : Buffer) : List BufferCall := if b = .null then [] else [.reclaim b]

theorem listed_afterReturn (core : Core σ) (b : Buffer) (p : σ) (calls : List BufferCall) :
    core.listed.afterReturn b (p, calls) = (core.afterReturn b p, calls ++ returning b) := by
  cases b with
  | null => simp [afterReturn, returning, Buffer.isNull]
  | region content => rfl

/-- A buffer is made only for what has bytes, and it holds these. -/
theorem Copies.lowered (copies : core.Copies) (fits : whole.length ≤ maxLength) (p : σ)
    (calls : List BufferCall) :
    ∃ b q, b.content = whole ∧ (b = .null ↔ whole = []) ∧ core.lowerBytes whole p = .ok b q ∧
      core.listed.lowerBytes whole (p, calls) = .ok b (q, calls ++ making whole) := by
  by_cases empty : whole = []
  · subst empty
    refine ⟨.null, p, rfl, by simp, lowerBytes_nil p, ?_⟩
    rw [lowerBytes_nil, making, if_pos rfl, List.append_nil]
  · have content := copies.allocate_content whole p fits
    refine ⟨_, _, content, ?_, copies.lowerBytes_eq empty fits p, ?_⟩
    · constructor
      · intro null
        rw [null] at content
        exact content.symm
      · exact fun none => absurd none empty
    · rw [copies.listed.lowerBytes_eq empty fits, making, if_neg empty]
      rfl

theorem making_append_returning (null : b = .null ↔ whole = []) :
    making whole ++ returning b = if whole = [] then [] else [.allocate whole, .reclaim b] := by
  unfold making returning
  by_cases empty : whole = []
  · rw [if_pos empty, if_pos (null.2 empty), if_pos empty, List.append_nil]
  · rw [if_neg empty, if_neg (mt null.1 empty), if_neg empty, List.singleton_append]

theorem lifted_of_content (lifts : s.lift whole = .ok v) (content : b.content = whole) :
    lifted s b = .ok v := by
  rw [lifted, content, lifts]
  rfl

/-- The null buffer stands for no bytes, on both ways: a value that the codec gives back comes back
over the core, with one buffer made and given back if it has bytes, and with none otherwise. A value
that is too long to be lent does not get to the core. -/
theorem null_stands_for_no_bytes (copies : core.Copies) (p : σ) (calls : List BufferCall) :
    (∀ (s : Shape) (v : Value) (whole : Bytes), v.lower = .ok whole → s.lift whole = .ok v →
      (whole.length ≤ maxLength → ∃ b q r, b.content = whole ∧ (b = .null ↔ whole = []) ∧
        core.lower v p = .ok b q ∧ core.lift s b q = .ok v r ∧
        core.listed.lower v (p, calls) = .ok b (q, calls ++ making whole) ∧
        core.listed.lift s b (q, calls ++ making whole) =
          .ok v (r, calls ++ if whole = [] then [] else [.allocate whole, .reclaim b])) ∧
      (maxLength < whole.length → core.listed.lower v (p, calls) =
        .error (.fault (.bufferTooLarge whole.length)) (p, calls))) ∧
    ∀ s : Shape,
      (∀ b : Buffer, b.content = [] → answer (core.lift s b) p =
        (s.lift []).mapError fun e => .fault (.lift s.fullName e)) ∧
      left (core.listed.lift s .null) (p, calls) = (p, calls) ∧
      left (core.listed.lift s (.region [])) (p, calls) =
        ((core.reclaim (.region []) p).2, calls ++ [.reclaim (.region [])]) := by
  constructor
  · intro s v whole lowers lifts
    refine ⟨fun fits => ?_, fun long => ?_⟩
    · obtain ⟨b, q, content, null, plain, noted⟩ := copies.lowered fits p calls
      rw [← lower_eq_lowerBytes lowers] at plain noted
      refine ⟨b, q, core.afterReturn b q, content, null, plain, ?_, noted, ?_⟩
      · rw [copies.quiet.lift_eq, lifted_of_content lifts content]
        rfl
      · rw [copies.listed.quiet.lift_eq, lifted_of_content lifts content, listed_afterReturn,
          List.append_assoc, making_append_returning null]
        rfl
    · rw [lower_eq_lowerBytes lowers, lowerBytes_of_lt long]
  · intro s
    refine ⟨fun b empty => ?_, ?_, ?_⟩
    · rw [answer_of_ending (copies.quiet.lift_eq s b p), lifted, empty]
      cases s.lift [] <;> rfl
    · rw [left_of_ending (copies.listed.quiet.lift_eq s .null (p, calls)), listed_afterReturn,
        returning, if_pos rfl, List.append_nil]
      rfl
    · rw [left_of_ending (copies.listed.quiet.lift_eq s (.region []) (p, calls)),
        listed_afterReturn]
      rfl

/-- No text, a record of nothing, and a single byte; and no bytes at all where a list is due. -/
theorem null_stands_for_no_bytes_few :
    let core : Core Unit := resident
    core.listed.lower (.text "") ((), []) = .ok .null ((), []) ∧
      core.listed.lower (.record none []) ((), []) = .ok .null ((), []) ∧
      (∃ b, b.content = [0, 0, 0, 1, 7] ∧ core.lower (.bytes [7]) () = .ok b () ∧
        core.listed.lift .bytes b ((), [.allocate [0, 0, 0, 1, 7]]) =
          .ok (.bytes [7]) ((), [.allocate [0, 0, 0, 1, 7], .reclaim b])) ∧
      answer (core.lift (.list .bool) (.region [])) () =
        .error (.fault (.lift "alloc::vec::Vec<bool>" (.truncated 4 0))) := by
  intro core
  obtain ⟨values, nothing⟩ := null_stands_for_no_bytes (show core.Copies from copies_resident) () []
  obtain ⟨text, _, _, -, noText, -, -, sentText, -⟩ :=
    (values .text (.text "") [] rfl rfl).1 (by decide)
  obtain ⟨record, _, _, -, noRecord, -, -, sentRecord, -⟩ :=
    (values (.record ⟨"Empty", "", none, []⟩ []) (.record none []) [] rfl rfl).1 (by decide)
  obtain ⟨b, _, _, content, -, made, -, -, given⟩ :=
    (values .bytes (.bytes [7]) [0, 0, 0, 1, 7] rfl
      (Wire.faithful_bytes.lift_eq rfl)).1 (by decide)
  rw [noText.2 rfl] at sentText
  rw [noRecord.2 rfl] at sentRecord
  exact ⟨sentText, sentRecord, ⟨b, content, made, given⟩, (nothing (.list .bool)).1 _ rfl⟩

theorem bytes_come_back (bytes : Bytes) (fits : bytes.length ≤ maxLength) :
    (Value.bytes bytes).lower = .ok (lengthPrefix bytes.length ++ bytes) ∧
      Shape.bytes.lift (lengthPrefix bytes.length ++ bytes) = .ok (.bytes bytes) := by
  have written : (Value.bytes bytes).lower = .ok (lengthPrefix bytes.length ++ bytes) :=
    Value.write_of_fits (Value.tooLong?_eq_none_iff.2 fits)
  exact ⟨written, Wire.faithful_bytes.lift_eq written⟩

/-- The codec has a place for the length of these bytes, but the prefix makes them too long to be
lent. -/
theorem codec_takes_more_than_can_be_lent :
    let zeros : Value := .bytes (List.replicate 2147483644 0)
    Copies (resident : Core Unit) ∧
      (∃ whole, zeros.lower = .ok whole ∧ Shape.bytes.lift whole = .ok zeros) ∧
      (resident : Core Unit).lower zeros () =
        .error (.fault (.bufferTooLarge 2147483648)) () := by
  intro zeros
  have length : (List.replicate 2147483644 (0 : UInt8)).length = 2147483644 :=
    List.length_replicate
  obtain ⟨lowers, lifts⟩ := bytes_come_back (List.replicate 2147483644 0) (by rw [length]; decide)
  refine ⟨copies_resident, ⟨_, lowers, lifts⟩, ?_⟩
  have size : (lengthPrefix (List.replicate 2147483644 (0 : UInt8)).length ++
      List.replicate 2147483644 0).length = 2147483648 := by
    rw [List.length_append, length, lengthPrefix, Bytes.length_ofInt]
  rw [lower_eq_lowerBytes lowers, lowerBytes_of_lt (by rw [size]; decide), size]

end Core
end Boundary
