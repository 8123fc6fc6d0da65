import Boundary.Payload.Thumbprint
import Boundary.Text.Scanner

/-!
What the digest and its text tell apart. The digest goes from word to word, and each step can be
undone, whether the byte or the word is asked for; so one byte that differs makes a difference in
the end. The text spells the whole word.
-/
namespace Boundary
namespace Bytes

/-- One byte into the digest. -/
def digestStep (h : UInt64) (x : UInt8) : UInt64 := (h ^^^ x.toUInt64) * 0x100000001b3

theorem digest_eq_foldl (b : Bytes) : b.digest = b.foldl digestStep 0xcbf29ce484222325 := rfl

/-- One byte into the digest in plain numbers: the product is kept up to 64 bits. -/
def fnvStep (h : Nat) (x : UInt8) : Nat := (h ^^^ x.toNat) * 1099511628211 % Nat.pow 2 64

def fnv (b : Bytes) : Nat := b.foldl fnvStep 14695981039346656037

theorem toNat_digestStep (h : UInt64) (x : UInt8) :
    (digestStep h x).toNat = fnvStep h.toNat x := by
  rw [digestStep, UInt64.toNat_mul, UInt64.toNat_xor, UInt8.toNat_toUInt64]
  rfl

theorem toNat_foldl_digestStep (b : Bytes) (h : UInt64) :
    (b.foldl digestStep h).toNat = b.foldl fnvStep h.toNat := by
  induction b generalizing h with
  | nil => rfl
  | cons x b ih => rw [List.foldl_cons, List.foldl_cons, ih, toNat_digestStep]

theorem toNat_digest (b : Bytes) : b.digest.toNat = b.fnv := toNat_foldl_digestStep b _

/-- The multiplier is odd, so it has an inverse among the words. -/
theorem mul_prime_inj {h k : UInt64} : h * 0x100000001b3 = k * 0x100000001b3 ↔ h = k := by
  have inverse : (0x100000001b3 : UInt64) * 0xce965057aff6957b = 1 := by decide
  constructor
  · intro same
    have undone := congrArg (· * (0xce965057aff6957b : UInt64)) same
    simpa only [UInt64.mul_assoc, inverse, UInt64.mul_one] using undone
  · exact congrArg (· * 0x100000001b3)

theorem digestStep_word_inj {h k : UInt64} {x : UInt8} :
    digestStep h x = digestStep k x ↔ h = k := by
  rw [digestStep, digestStep, mul_prime_inj, UInt64.xor_left_inj]

theorem digestStep_byte_inj {h : UInt64} {x y : UInt8} :
    digestStep h x = digestStep h y ↔ x = y := by
  rw [digestStep, digestStep, mul_prime_inj, UInt64.xor_right_inj, UInt8.toUInt64_inj]

/-- What comes behind does not make up for a difference. -/
theorem foldl_digestStep_inj (back : Bytes) {h k : UInt64} :
    back.foldl digestStep h = back.foldl digestStep k ↔ h = k := by
  induction back generalizing h k with
  | nil => rfl
  | cons x back ih => rw [List.foldl_cons, List.foldl_cons, ih, digestStep_word_inj]

theorem digest_inj_at (front back : Bytes) {x y : UInt8} :
    digest (front ++ x :: back) = digest (front ++ y :: back) ↔ x = y := by
  simp only [digest_eq_foldl, List.foldl_append, List.foldl_cons]
  rw [foldl_digestStep_inj, digestStep_byte_inj]

/-- In how many places the bytes differ, as far as both go. -/
def differences (b c : Bytes) : Nat := (b.zip c).countP fun pair => pair.1 ≠ pair.2

theorem differences_cons (x y : UInt8) (b c : Bytes) :
    differences (x :: b) (y :: c) = differences b c + if x ≠ y then 1 else 0 := by
  simp [differences, List.countP_cons]

theorem eq_of_differences_eq_zero {b c : Bytes} (size : b.length = c.length)
    (zero : differences b c = 0) : b = c := by
  induction b generalizing c with
  | nil => exact (List.eq_nil_of_length_eq_zero size.symm).symm
  | cons x b ih =>
    cases c with
    | nil => cases size
    | cons y c =>
      rw [differences_cons] at zero
      by_cases same : x = y
      · rw [same, ih (Nat.succ.inj size) (by omega)]
      · rw [if_pos same] at zero
        cases zero

/-- The same length, and a single place where they differ. -/
def OneByteApart (b c : Bytes) : Prop := b.length = c.length ∧ differences b c = 1

instance (b c : Bytes) : Decidable (OneByteApart b c) := inferInstanceAs (Decidable (_ ∧ _))

theorem OneByteApart.exists_at {b c : Bytes} (apart : OneByteApart b c) :
    ∃ front x y back, x ≠ y ∧ b = front ++ x :: back ∧ c = front ++ y :: back := by
  obtain ⟨size, one⟩ := apart
  induction b generalizing c with
  | nil => cases one
  | cons x b ih =>
    cases c with
    | nil => cases size
    | cons y c =>
      rw [differences_cons] at one
      by_cases same : x = y
      · rw [if_neg (not_not_intro same)] at one
        obtain ⟨front, u, v, back, differ, rfl, rfl⟩ := ih (Nat.succ.inj size) one
        exact ⟨x :: front, u, v, back, differ, rfl, by rw [same]; rfl⟩
      · rw [if_pos same] at one
        rw [eq_of_differences_eq_zero (Nat.succ.inj size) (Nat.succ.inj one)]
        exact ⟨[], x, y, c, same, rfl, rfl⟩

theorem OneByteApart.digest_ne {b c : Bytes} (apart : OneByteApart b c) : b.digest ≠ c.digest := by
  obtain ⟨front, x, y, back, differ, rfl, rfl⟩ := apart.exists_at
  exact fun same => differ ((digest_inj_at front back).1 same)

end Bytes

theorem hexValue?_digitChar : ∀ d < 16, hexValue? (Nat.digitChar d) = some d := by decide

/-- The last `width` digits of a number in base 16. -/
def lastDigits (width n : Nat) : List Char :=
  (List.range width).map fun i => Nat.digitChar (n / Nat.pow 16 (width - 1 - i) % 16)

theorem lastDigits_succ (width n : Nat) :
    lastDigits (width + 1) n = lastDigits width (n / 16) ++ [Nat.digitChar (n % 16)] := by
  unfold lastDigits
  rw [List.range_succ, List.map_append]
  congr 1
  · refine List.map_congr_left fun i inside => ?_
    have places : width + 1 - 1 - i = width - 1 - i + 1 := by
      have bound := List.mem_range.1 inside
      omega
    have shifted : n / Nat.pow 16 (width - 1 - i + 1) = n / 16 / Nat.pow 16 (width - 1 - i) := by
      rw [Nat.div_div_eq_div_mul, Nat.pow_eq, Nat.pow_eq, Nat.pow_succ']
    rw [places, shifted]
  · rw [List.map_singleton, Nat.add_sub_cancel, Nat.sub_self]
    exact congrArg (fun m => [Nat.digitChar (m % 16)]) (Nat.div_one n)

theorem numberOfChars_snoc (base : Nat) (digits : List Char) (c : Char) :
    numberOfChars base (digits ++ [c]) =
      base * numberOfChars base digits + (hexValue? c).getD 0 := by
  simp [numberOfChars, digitsValue]

theorem numberOfChars_lastDigits (width n : Nat) :
    numberOfChars 16 (lastDigits width n) = n % Nat.pow 16 width := by
  induction width generalizing n with
  | zero => exact (Nat.mod_one n).symm
  | succ width ih =>
    have digit := hexValue?_digitChar (n % 16) (Nat.mod_lt n (by decide))
    have places : Nat.pow 16 (width + 1) = 16 * Nat.pow 16 width := Nat.mul_comm ..
    rw [lastDigits_succ, numberOfChars_snoc, ih, digit, Option.getD_some, places, Nat.mod_mul,
      Nat.add_comm]

theorem wordText_eq_lastDigits (n : UInt64) : wordText n = lastDigits 16 n.toNat := rfl

theorem numberOfChars_wordText (n : UInt64) : numberOfChars 16 (wordText n) = n.toNat := by
  rw [wordText_eq_lastDigits, numberOfChars_lastDigits]
  exact Nat.mod_eq_of_lt n.toNat_lt

theorem digitChar_lower : ∀ d < 16, Nat.digitChar d ∈ "0123456789abcdef".toList := by decide

/-- Sixteen digits in base 16, in lower case, that spell the number. -/
def SpellsWord (text : String) (n : Nat) : Prop :=
  text.length = 16 ∧ (∀ c ∈ text.toList, c ∈ "0123456789abcdef".toList) ∧
    numberOfChars 16 text.toList = n

/-- Zeros in front are written, too. -/
theorem spellsWord_wordText (n : UInt64) : SpellsWord (String.ofList (wordText n)) n.toNat := by
  refine ⟨?_, ?_, ?_⟩
  · rw [String.length_ofList, wordText, List.length_map, List.length_range]
  · intro c member
    rw [String.toList_ofList] at member
    obtain ⟨i, -, rfl⟩ := List.mem_map.1 member
    exact digitChar_lower _ (Nat.mod_lt _ (by decide))
  · rw [String.toList_ofList, numberOfChars_wordText]

theorem wordText_inj {m n : UInt64} : wordText m = wordText n ↔ m = n := by
  constructor
  · intro same
    rw [← UInt64.toNat_inj, ← numberOfChars_wordText, ← numberOfChars_wordText, same]
  · exact congrArg wordText

namespace Jwk

theorem spellsWord_thumbprint (key : Jwk) :
    SpellsWord key.thumbprint (Bytes.ofText key.canonicalText).fnv := by
  rw [← Bytes.toNat_digest]
  exact spellsWord_wordText _

theorem thumbprint_eq_iff {key other : Jwk} : key.thumbprint = other.thumbprint ↔
    (Bytes.ofText key.canonicalText).digest = (Bytes.ofText other.canonicalText).digest := by
  rw [thumbprint, thumbprint, ← String.toList_inj, String.toList_ofList, String.toList_ofList,
    wordText_inj]

end Jwk
end Boundary
