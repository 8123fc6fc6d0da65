/-!
Byte strings, the big-endian words in them and the text they spell.
-/
namespace Boundary

abbrev Bytes := List UInt8

namespace Bytes

/-- The last `width` base 256 digits of `n`, most significant first. -/
def ofNat : (width n : Nat) → Bytes
  | 0, _ => []
  | width + 1, n => ofNat width (n / 256) ++ [UInt8.ofNat n]

/-- The number whose base 256 digits are `b`, most significant first. -/
def toNat (b : Bytes) : Nat := b.foldl (fun n digit => 256 * n + digit.toNat) 0

/-- How many byte strings of a length there are. -/
def span (width : Nat) : Nat := Nat.pow 256 width

/-- Two's complement in `width` bytes. -/
def ofInt (width : Nat) (n : Int) : Bytes := ofNat width (n % span width).toNat

/-- The signed number that `b` spells in two's complement. -/
def toInt (b : Bytes) : Int := Int.bmod (toNat b) (span b.length)

/-- The UTF-8 form of a text. -/
def ofText (s : String) : Bytes := s.toByteArray.data.toList

/-- The text that `b` is the UTF-8 form of, if it is one. -/
def toText? (b : Bytes) : Option String := String.fromUTF8? ⟨b.toArray⟩

@[simp] theorem length_ofNat (width n : Nat) : (ofNat width n).length = width := by
  induction width generalizing n with
  | zero => rfl
  | succ width ih => simp [ofNat, ih]

@[simp] theorem length_ofInt (width : Nat) (n : Int) : (ofInt width n).length = width :=
  length_ofNat ..

@[simp] theorem toText?_ofText (s : String) : toText? (ofText s) = some s := by
  simp [toText?, ofText, String.fromUTF8?, s.isValidUTF8, String.fromUTF8]

theorem ofText_of_toText? {b : Bytes} {s : String} (h : toText? b = some s) : ofText s = b := by
  unfold toText? String.fromUTF8? at h
  split at h
  · cases h
    simp [ofText, String.fromUTF8]
  · cases h

end Bytes
end Boundary
