import Boundary.Wire.Encode
import Mathlib.Data.List.Induction

/-!
Big-endian words: the digits of a number spell that number again, signed or not.
-/
namespace Boundary
namespace Bytes

theorem toNat_snoc (b : Bytes) (digit : UInt8) :
    toNat (b ++ [digit]) = 256 * toNat b + digit.toNat := by
  simp [toNat]

theorem span_succ (width : Nat) : span (width + 1) = 256 * span width := Nat.mul_comm ..

theorem span_pos (width : Nat) : 0 < span width := Nat.pow_pos (by decide)

theorem toNat_ofNat (width n : Nat) : toNat (ofNat width n) = n % span width := by
  induction width generalizing n with
  | zero => simp [ofNat, toNat, span, Nat.mod_one]
  | succ width ih =>
    rw [ofNat, toNat_snoc, ih, span_succ, Nat.mod_mul]
    simp only [UInt8.toNat_ofNat']
    omega

theorem toNat_ofNat_of_lt {width n : Nat} (bound : n < span width) :
    toNat (ofNat width n) = n := by
  rw [toNat_ofNat, Nat.mod_eq_of_lt bound]

/-- Two's complement only keeps a number up to a multiple of `span width`. -/
theorem toNat_ofInt (width : Nat) (n : Int) :
    (toNat (ofInt width n) : Int) = n % (span width : Nat) := by
  have size : (0 : Int) < (span width : Nat) := by
    exact_mod_cast span_pos width
  have low := Int.emod_nonneg n (Int.ne_of_gt size)
  have high := Int.emod_lt_of_pos n size
  rw [ofInt, toNat_ofNat_of_lt (by omega)]
  omega

theorem toNat_ofInt_of_lt {width : Nat} {n : Int} (low : 0 ≤ n)
    (high : n < (span width : Nat)) : (toNat (ofInt width n) : Int) = n := by
  rw [toNat_ofInt, Int.emod_eq_of_lt low high]

theorem toInt_ofInt_of_lt {width : Nat} {n : Int} (low : -(span width : Nat) ≤ n * 2)
    (high : n * 2 < (span width : Nat)) : toInt (ofInt width n) = n := by
  rw [toInt, length_ofInt, toNat_ofInt, Int.emod_bmod]
  exact Int.bmod_eq_of_le_mul_two low high

theorem toNat_lt (b : Bytes) : toNat b < span b.length := by
  induction b using List.reverseRecOn with
  | nil => simp [toNat, span]
  | append_singleton front digit ih =>
    have small := digit.toNat_lt
    rw [toNat_snoc, List.length_append, List.length_singleton, span_succ]
    omega

/-- A word is the only one of its width that spells its number. -/
theorem ofNat_toNat (b : Bytes) : ofNat b.length (toNat b) = b := by
  induction b using List.reverseRecOn with
  | nil => rfl
  | append_singleton front digit ih =>
    have small := digit.toNat_lt
    have high : (256 * toNat front + digit.toNat) / 256 = toNat front := by omega
    have low : UInt8.ofNat (256 * toNat front + digit.toNat) = digit := by
      apply UInt8.toNat_inj.mp
      simp only [UInt8.toNat_ofNat']
      omega
    rw [toNat_snoc, List.length_append, List.length_singleton, ofNat, high, low, ih]

theorem ofInt_of_emod {b : Bytes} {n : Int} (same : n % (span b.length : Nat) = toNat b) :
    ofInt b.length n = b := by
  rw [ofInt, same, Int.toNat_natCast, ofNat_toNat]

theorem ofInt_toNat (b : Bytes) : ofInt b.length (toNat b) = b := by
  apply ofInt_of_emod
  have bound := toNat_lt b
  apply Int.emod_eq_of_lt
  · omega
  · omega

theorem ofInt_toInt (b : Bytes) : ofInt b.length (toInt b) = b := by
  apply ofInt_of_emod
  have bound := toNat_lt b
  rw [toInt, Int.bmod_emod]
  apply Int.emod_eq_of_lt
  · omega
  · omega

theorem toInt_bounds (b : Bytes) :
    -((span b.length : Nat) : Int) ≤ toInt b * 2 ∧ toInt b * 2 < (span b.length : Nat) := by
  have size := span_pos b.length
  have low : -((span b.length : Nat) / 2 : Int) ≤ toInt b := Int.le_bmod size
  have high : toInt b < ((span b.length : Nat) + 1) / 2 := Int.bmod_lt size
  constructor
  · omega
  · omega

end Bytes

namespace IntType

theorem unsigned_bounds {t : IntType} {n : Int} (plain : t.signed = false) (holds : t.Holds n) :
    0 ≤ n ∧ n < (Bytes.span t.width : Nat) := by
  obtain ⟨low, high⟩ := holds
  cases t <;> simp_all [least, bound, signed, width, Bytes.span]

theorem signed_bounds {t : IntType} {n : Int} (twos : t.signed = true) (holds : t.Holds n) :
    -(Bytes.span t.width : Nat) ≤ n * 2 ∧ n * 2 < (Bytes.span t.width : Nat) := by
  obtain ⟨low, high⟩ := holds
  cases t <;> simp_all [least, bound, signed, width, Bytes.span] <;> omega

/-- What a word of its width spells is in the range of an integer type. -/
theorem holds_of_word (t : IntType) {b : Bytes} (size : b.length = t.width) :
    t.Holds (if t.signed then Bytes.toInt b else Bytes.toNat b) := by
  have bound := Bytes.toNat_lt b
  obtain ⟨low, high⟩ := Bytes.toInt_bounds b
  rw [size] at bound low high
  cases t <;> simp_all [Holds, least, IntType.bound, signed, width, Bytes.span] <;> omega

theorem i32_holds_iff {n : Int} : i32.Holds n ↔ -2147483648 ≤ n ∧ n < 2147483648 := Iff.rfl

theorem i64_holds_iff {n : Int} :
    i64.Holds n ↔ -9223372036854775808 ≤ n ∧ n < 9223372036854775808 := Iff.rfl

end IntType
end Boundary
