import Boundary.Proofs.Wire.Causes
import Boundary.Proofs.Wire.Truncation
import Boundary.Proofs.Wire.Typed

/-!
Bytes and lists of small numbers. Both are written as a count and the bytes themselves, so that
either side of the boundary may take what the other one wrote. Reading bytes is one split of the
input, and reading a list goes on number by number; the two come apart only in what they say about
an input that is too short.
-/
namespace Boundary

/-- The bytes as a list of numbers. -/
def Value.byteList (b : Bytes) : Value := .list (b.map fun d => .int .u8 d.toNat)

namespace Reader

/-- One reader finds bytes and the other one the same bytes as a list, with the same input left, or
both meet the same negative count, or both run out of input. -/
inductive SameBytes : (bytes numbers : EStateM.Result CodecError Bytes Value) → Prop
  | found (b rest : Bytes) : SameBytes (.ok (.bytes b) rest) (.ok (.byteList b) rest)
  | negative (n : Int) (rest : Bytes) :
      SameBytes (.error (.negativeLength n) rest) (.error (.negativeLength n) rest)
  | truncated {e f : CodecError} {rest left : Bytes} (bulk : e.IsTruncated)
      (single : f.IsTruncated) : SameBytes (.error e rest) (.error f left)

/-- The reader of the numbers in a list of bytes. -/
def digit : Reader Value := (Shape.int .u8).read

theorem toNat_singleton (d : UInt8) : Bytes.toNat [d] = d.toNat := by simp [Bytes.toNat]

theorem encode_digit (d : UInt8) : (Value.int .u8 d.toNat).encode = [d] := by
  have word := Bytes.ofInt_toNat [d]
  rwa [toNat_singleton] at word

theorem encodeAll_digits (b : Bytes) :
    (b.map fun d => Value.int .u8 d.toNat).flatMap Value.encode = b := by
  rw [List.flatMap_map]
  simp only [encode_digit, List.flatMap_singleton']

theorem reads_digit (d : UInt8) : Reads digit [d] (.int .u8 d.toNat) := by
  have holds : IntType.u8.Holds (Bytes.toNat [d]) := IntType.u8.holds_of_word rfl
  rw [toNat_singleton] at holds
  have read := (reads_int holds).map (Value.int .u8)
  rwa [← Value.encode, encode_digit] at read

theorem times_digit_of_le {n : Nat} {b : Bytes} (enough : n ≤ b.length) :
    digit.times n b = .ok ((b.take n).map fun d => .int .u8 d.toNat) (b.drop n) := by
  have each : ∀ v ∈ (b.take n).map fun d => Value.int .u8 d.toNat,
      ReadsBelow (b.length + 1) digit v.encode v := by
    intro v mem
    obtain ⟨d, -, rfl⟩ := List.mem_map.1 mem
    rw [encode_digit]
    exact reads_digit d _
  have read := readsBelow_times Value.encode each (b.drop n)
  rw [encodeAll_digits, List.take_append_drop, List.length_map, List.length_take_of_le enough]
    at read
  exact read (Nat.lt_succ_self _)

/-- Number by number, an input that is too short is used up before it is found to be. -/
theorem times_digit_of_lt {n : Nat} {b : Bytes} (short : b.length < n) :
    digit.times n b = .error (.truncated 1 0) [] := by
  induction b generalizing n with
  | nil =>
    cases n with
    | zero => cases short
    | succ n => rfl
  | cons d b ih =>
    cases n with
    | zero => cases short
    | succ n =>
      have first : digit (d :: b) = .ok (.int .u8 d.toNat) b := (reads_digit d).exact b
      have later := ih (Nat.lt_of_succ_lt_succ short)
      rw [times, bind_ok first, bind_error later]

theorem length_error {b rest : Bytes} {e : CodecError} (read : length b = .error e rest) :
    e.IsTruncated ∨ ∃ n, e = .negativeLength n := by
  by_cases enough : 4 ≤ b.length
  · have word : int .i32 b = .ok (Bytes.toInt (b.take 4)) (b.drop 4) := bind_ok (take_of_le enough)
    rw [length, bind_ok word] at read
    split at read
    · cases read
      exact .inr ⟨_, rfl⟩
    · cases read
  · have word : int .i32 b = .error (.truncated 4 b.length) b :=
      bind_error (take_of_lt (Nat.lt_of_not_le enough))
    rw [length, bind_error word] at read
    cases read
    exact .inl ⟨_, _, rfl⟩

end Reader

namespace Shape
open Reader

theorem sameBytes_read (input : Bytes) :
    SameBytes (Shape.bytes.read input) ((Shape.list (.int .u8)).read input) := by
  cases count : Reader.length input with
  | ok n rest =>
    have bulk : Shape.bytes.read input = (do return Value.bytes (← take n)) rest := bind_ok count
    have single : (Shape.list (.int .u8)).read input =
        (do return Value.list (← digit.times n)) rest := bind_ok count
    rw [bulk, single]
    by_cases enough : n ≤ rest.length
    · rw [bind_ok (take_of_le enough), bind_ok (times_digit_of_le enough)]
      exact .found _ _
    · have short := Nat.lt_of_not_le enough
      rw [bind_error (take_of_lt short), bind_error (times_digit_of_lt short)]
      exact .truncated ⟨_, _, rfl⟩ ⟨_, _, rfl⟩
  | error e rest =>
    have bulk : Shape.bytes.read input = .error e rest := bind_error count
    have single : (Shape.list (.int .u8)).read input = .error e rest := bind_error count
    rw [bulk, single]
    rcases length_error count with truncated | ⟨n, rfl⟩
    · exact .truncated truncated truncated
    · exact .negative n rest

theorem write_bytes {b : Bytes} (fits : b.length ≤ maxLength) :
    (Value.bytes b).write = .ok (lengthPrefix b.length ++ b) :=
  Value.write_of_fits (Value.tooLong?_eq_none_iff.2 fits)

theorem write_byteList {b : Bytes} (fits : b.length ≤ maxLength) :
    (Value.byteList b).write = .ok (lengthPrefix b.length ++ b) := by
  have none : (Value.byteList b).oversize? = none := by
    refine Option.or_eq_none_iff.2 ⟨Value.tooLong?_eq_none_iff.2 (by simpa using fits), ?_⟩
    refine Value.anyOversize?_eq_none_iff.2 fun v mem => ?_
    obtain ⟨d, -, rfl⟩ := List.mem_map.1 mem
    rfl
  rw [Value.write_of_fits none, Value.byteList, Value.encode, Value.encodeAll_eq_flatMap,
    encodeAll_digits, List.length_map]

/-- Bytes and the list of the same numbers are written alike, inside other values and alone. On any
input, the one is read where the other is. -/
theorem bytes_share_layout :
    (∀ b : Bytes, b.length ≤ maxLength →
      (Value.bytes b).write = .ok (lengthPrefix b.length ++ b) ∧
      (Value.byteList b).write = (Value.bytes b).write ∧
      (Value.byteList b).lower = (Value.bytes b).lower) ∧
    ∀ input : Bytes, SameBytes (Shape.bytes.read input) ((Shape.list (.int .u8)).read input) := by
  refine ⟨fun b fits => ?_, sameBytes_read⟩
  have written := write_bytes fits
  have same := (write_byteList fits).trans written.symm
  exact ⟨written, same, same⟩

/-- No bytes, a byte that is no number of a signed word, and a count of three before two bytes. -/
theorem bytes_share_layout_short :
    (Value.byteList []).write = .ok [0, 0, 0, 0] ∧
      (Value.byteList [255, 0]).lower = .ok [0, 0, 0, 2, 255, 0] ∧
      SameBytes (.error (.truncated 3 2) [255, 0])
        ((Shape.list (.int .u8)).read [0, 0, 0, 3, 255, 0]) := by
  obtain ⟨writes, reads⟩ := bytes_share_layout
  obtain ⟨none, sameNone, -⟩ := writes [] (by decide)
  obtain ⟨two, -, sameTwo⟩ := writes [255, 0] (by decide)
  have cut : Shape.bytes.read [0, 0, 0, 3, 255, 0] = .error (.truncated 3 2) [255, 0] :=
    eq_error_of_refusal (by decide +kernel)
  have same := reads [0, 0, 0, 3, 255, 0]
  rw [cut] at same
  exact ⟨sameNone.trans none, sameTwo.trans two, same⟩

end Shape
end Boundary
