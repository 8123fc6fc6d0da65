import Boundary.Text.Blank
import Boundary.Text.Scanner

/-!
Decimal numbers as texts: their digits spell them, in as many places as are asked for.
-/
namespace Boundary
variable {c : Char} {digits : List Char} {width n : Nat}

theorem hexValue?_of_isDigit (digit : c.isDigit = true) :
    hexValue? c = some (c.toNat - '0'.toNat) :=
  if_pos (by simpa [Char.isDigit, Char.le_def] using digit)

theorem isBlank_of_isDigit (digit : c.isDigit = true) : isBlank c = false := by
  obtain ⟨low, high⟩ := Char.isDigit_iff_toNat.1 digit
  simp only [Char.reduceToNat] at low high
  simp only [isBlank, Bool.or_eq_false_iff, Bool.and_eq_false_iff, decide_eq_false_iff_not]
  omega

theorem decimalValue_eq_ofDigitChars (each : ∀ c ∈ digits, c.isDigit = true) :
    decimalValue digits = Nat.ofDigitChars 10 digits 0 := by
  have values : digits.map (fun c => (hexValue? c).getD 0) =
      digits.map fun c => c.toNat - '0'.toNat := by
    apply List.map_congr_left
    intro c mem
    rw [hexValue?_of_isDigit (each c mem), Option.getD_some]
  rw [decimalValue, numberOfChars, values, digitsValue, List.foldl_map, Nat.ofDigitChars_eq_foldl]

theorem isDigit_of_mem_decimalText (mem : c ∈ decimalText width n) : c.isDigit = true := by
  rcases List.mem_append.1 mem with zero | digit
  · rw [List.eq_of_mem_replicate zero]
    rfl
  · exact Nat.isDigit_of_mem_toDigits (by decide) (by decide) digit

@[simp] theorem decimalValue_decimalText (width n : Nat) :
    decimalValue (decimalText width n) = n := by
  rw [decimalValue_eq_ofDigitChars fun c mem => isDigit_of_mem_decimalText mem, decimalText,
    Nat.ofDigitChars_append, Nat.ofDigitChars_replicate_zero, Nat.mul_zero,
    Nat.ofDigitChars_ten_toDigits]

theorem decimalText_ne_nil (width n : Nat) : decimalText width n ≠ [] :=
  List.append_ne_nil_of_right_ne_nil _ Nat.toDigits_ne_nil

theorem head?_decimalText (width n : Nat) (rest : List Char) :
    ∃ c, c.isDigit = true ∧ (decimalText width n ++ rest).head? = some c := by
  cases written : decimalText width n with
  | nil => exact absurd written (decimalText_ne_nil width n)
  | cons c run =>
    have mem : c ∈ decimalText width n := written ▸ List.mem_cons_self
    exact ⟨c, isDigit_of_mem_decimalText mem, rfl⟩

theorem length_decimalText (places : 0 < width) (fits : n < Nat.pow 10 width) :
    (decimalText width n).length = width := by
  have short := (Nat.length_toDigits_le_iff (by decide) places).2 fits
  simp only [decimalText, List.length_append, List.length_replicate]
  omega

theorem decimalText_one (n : Nat) : decimalText 1 n = Nat.toDigits 10 n := by
  have some := Nat.length_toDigits_pos (b := 10) (n := n)
  rw [decimalText, Nat.sub_eq_zero_of_le some, List.replicate_zero, List.nil_append]

theorem digitChar_ne_zero : ∀ d < 10, 0 < d → Nat.digitChar d ≠ '0' := by decide

theorem head?_toDigits (positive : 0 < n) : (Nat.toDigits 10 n).head? ≠ some '0' := by
  induction n using Nat.strongRecOn with
  | ind n ih =>
    by_cases small : n < 10
    · rw [Nat.toDigits_of_lt_base small]
      intro zero
      exact digitChar_ne_zero n small positive (Option.some.inj zero)
    · rw [Nat.toDigits_of_base_le (by decide) (by omega), List.head?_append,
        Option.or_of_isSome (List.isSome_head?.2 Nat.toDigits_ne_nil)]
      exact ih (n / 10) (by omega) (by omega)

end Boundary
