import Boundary.Proofs.Text.Decimal
import Boundary.Proofs.Text.Scans
import Boundary.Toml.Printer

/-!
A word of digits is a number: it is no date and no time, it has no prefix, and only zero begins
with 0.
-/
namespace Boundary
namespace Toml
open Scanner hiding some
variable {c : Char} {word rest : List Char} {n : Nat}

theorem mem_of_exactly {run : List Char} {p : Char → Bool}
    (taken : Scanner.exactly n p word = some (run, rest)) : ∀ c ∈ rest, c ∈ word := by
  rw [Scanner.exactly, bind_apply, upTo, Option.bind_some] at taken
  split at taken
  · cases taken
    exact fun c mem => List.mem_of_mem_drop mem
  · cases taken

/-- No mark comes behind the digits that were asked for, since there are only digits. -/
theorem char_after_exactly {run : List Char} {p : Char → Bool} (each : ∀ d ∈ word, d.isDigit = true)
    (mark : c.isDigit = false) (taken : Scanner.exactly n p word = some (run, rest)) :
    char c rest = none := by
  apply char_eq_none
  intro head
  have digit := each c (mem_of_exactly taken c (List.mem_of_mem_head? head))
  rw [mark] at digit
  cases digit

theorem date_of_digits (each : ∀ c ∈ word, c.isDigit = true) : date word = none := by
  rw [date, bind_apply]
  cases taken : Scanner.exactly 4 Char.isDigit word with
  | none => rfl
  | some p =>
    rw [Option.bind_some, bind_apply, char_after_exactly each (by decide) taken]
    rfl

theorem timeOfDay_of_digits (each : ∀ c ∈ word, c.isDigit = true) : timeOfDay word = none := by
  rw [timeOfDay, bind_apply, twoDigits, bind_apply]
  cases taken : Scanner.exactly 2 Char.isDigit word with
  | none => rfl
  | some p =>
    rw [Option.bind_some]
    change Option.bind (some (_, p.2)) _ = none
    rw [Option.bind_some, bind_apply, char_after_exactly each (by decide) taken]
    rfl

theorem all_eq_none {α : Type} {s : Scanner α} (fails : s word = none) : s.all word = none := by
  rw [Scanner.all, fails]

theorem isDate_of_digits (each : ∀ c ∈ word, c.isDigit = true) : isDate word = false := by
  rw [isDate, all_eq_none (date_of_digits each)]
  rfl

theorem isMoment_of_digits (each : ∀ c ∈ word, c.isDigit = true) : isMoment word = false := by
  have both : dateAndTime word = none := by
    rw [dateAndTime, bind_apply, date_of_digits each]
    rfl
  have away : (do dateAndTime; distance : Scanner Unit) word = none := by
    rw [bind_apply, both]
    rfl
  rw [isMoment, isDate_of_digits each, all_eq_none (timeOfDay_of_digits each), all_eq_none both,
    all_eq_none away]
  rfl

theorem isDigitOf_of_isDigit (digit : c.isDigit = true) {base : Nat} (ten : 10 ≤ base) :
    isDigitOf base c = true := by
  obtain ⟨low, high⟩ := Char.isDigit_iff_toNat.1 digit
  simp only [Char.reduceToNat] at low high
  simp only [isDigitOf, hexValue?_of_isDigit digit, Option.any_some, decide_eq_true_eq,
    Char.reduceToNat]
  omega

theorem ne_of_isDigit {d : Char} (digit : c.isDigit = true) (other : d.isDigit = false) :
    c ≠ d := by
  rintro rfl
  rw [other] at digit
  cases digit

theorem groupedAfter_of_digits (isDigit : Char → Bool) (each : ∀ c ∈ word, c.isDigit = true)
    (mayGroup : Bool) : groupedAfter isDigit mayGroup word = true := by
  induction word generalizing mayGroup with
  | nil => rw [groupedAfter]
  | cons c word ih =>
    have bare := ne_of_isDigit (d := '_') (each c List.mem_cons_self) (by decide)
    rw [groupedAfter, if_neg bare]
    exact ih (fun d mem => each d (List.mem_cons_of_mem c mem)) _

theorem ungrouped_of_digits (each : ∀ c ∈ word, c.isDigit = true) : ungrouped word = word := by
  apply List.filter_eq_self.2
  intro c mem
  have bare := ne_of_isDigit (d := '_') (each c mem) (by decide)
  simp [bare]

theorem unsigned_of_digits (each : ∀ c ∈ word, c.isDigit = true) : unsigned word = word := by
  cases word with
  | nil => rfl
  | cons c word =>
    have digit := each c List.mem_cons_self
    have plus := ne_of_isDigit (d := '+') digit (by decide)
    have minus := ne_of_isDigit (d := '-') digit (by decide)
    simp [unsigned, plus, minus]

theorem ne_of_digits (each : ∀ c ∈ word, c.isDigit = true) (other : List Char)
    (letter : ∃ c ∈ other, c.isDigit = false) : word ≠ other := by
  rintro rfl
  obtain ⟨c, mem, no⟩ := letter
  rw [each c mem] at no
  cases no

theorem radix?_of_digits (leading : word.head? = some '0' → word = ['0']) :
    radix? word = none := by
  unfold radix?
  split <;> simp_all

theorem wellGrouped_of_digits (isDigit : Char → Bool) (each : ∀ c ∈ word, c.isDigit = true) :
    wellGrouped isDigit word = true := by
  cases word with
  | nil => rfl
  | cons c word =>
    have bare := ne_of_isDigit (d := '_') (each c List.mem_cons_self) (by decide)
    have later := groupedAfter_of_digits isDigit
      (fun d mem => each d (List.mem_cons_of_mem c mem)) true
    simp [wellGrouped, bare, later]

theorem integerOf?_of_digits (each : ∀ c ∈ word, c.isDigit = true) (word_ne : word ≠ []) :
    integerOf? word = some (decimalValue word : Int) := by
  have digits : word.all (isDigitOf 10) = true :=
    List.all_eq_true.2 fun c mem => isDigitOf_of_isDigit (each c mem) (Nat.le_refl _)
  have unmarked : word.head? ≠ some '-' := fun head => by
    cases each '-' (List.mem_of_mem_head? head)
  rw [integerOf?, unsigned_of_digits each, naturalOf?, if_pos (by simp [digits, word_ne])]
  exact congrArg some (if_neg unmarked)

/-- The number that a word of digits is by its form. -/
theorem number?_of_digits (each : ∀ c ∈ word, c.isDigit = true) (word_ne : word ≠ [])
    (leading : word.head? = some '0' → word = ['0']) :
    number? word = some (ofInteger word (some (decimalValue word))) := by
  have tail : word.dropWhile Char.isDigit = [] := by
    have stops := dropWhile_of_stops each stops_nil
    rwa [List.append_nil] at stops
  have inf := ne_of_digits each "inf".toList ⟨'i', by decide⟩
  have nan := ne_of_digits each "nan".toList ⟨'n', by decide⟩
  have grouped := wellGrouped_of_digits (isDigitOf 16) each
  have zero : ¬ (word.isEmpty = true ∨ word.head? = some '0' ∧ word ≠ ['0']) := by
    rintro (empty | ⟨head, other⟩)
    · exact word_ne (List.isEmpty_iff.1 empty)
    · exact other (leading head)
  rw [number?]
  simp only [radix?_of_digits leading, unsigned_of_digits each, tail]
  have named : ¬ (decide (word = "inf".toList) || decide (word = "nan".toList)) = true := by
    simp only [decide_eq_false inf, decide_eq_false nan, Bool.or_self, Bool.false_eq_true,
      not_false_eq_true]
  rw [if_neg named, if_neg (by decide), if_neg (by simpa using zero),
    if_pos (by simp [grouped]), ungrouped_of_digits each, integerOf?_of_digits each word_ne]

theorem isLexeme_digits : ∀ n < 58, 48 ≤ n → isLexeme (Char.ofNat n) = true := by decide

theorem isLexeme_of_isDigit (digit : c.isDigit = true) : isLexeme c = true := by
  obtain ⟨low, high⟩ := Char.isDigit_iff_toNat.1 digit
  have lexeme := isLexeme_digits c.toNat (Nat.lt_succ_of_le high) low
  rwa [Char.ofNat_toNat] at lexeme

theorem takes_lexeme_digits (each : ∀ c ∈ word, c.isDigit = true) (word_ne : word ≠ [])
    (stops : Stops isLexeme rest) : Takes lexeme word rest word := by
  have run := takes_some word_ne (fun c mem => isLexeme_of_isDigit (each c mem)) stops
  refine run.before ((takes_get _).after ?_)
  rw [isDate_of_digits each]
  exact takes_pure word rest

theorem head?_numberText (zero : (numberText n).head? = some '0') : numberText n = ['0'] := by
  rw [numberText, decimalText_one] at *
  by_cases positive : 0 < n
  · exact absurd zero (head?_toDigits positive)
  · rw [Nat.eq_zero_of_not_pos positive]
    rfl

/-- Numbers of up to 128 bits are read back; a word has to end behind them. -/
theorem takes_scalar_number (fits : n < Nat.pow 2 128) (stops : Stops isLexeme rest) :
    Takes scalar (numberText n) rest (.integer n) := by
  have each : ∀ c ∈ numberText n, c.isDigit = true := fun c mem => isDigit_of_mem_decimalText mem
  have text_ne : numberText n ≠ [] := decimalText_ne_nil 1 n
  have yes := ne_of_digits each "true".toList ⟨'t', by decide⟩
  have no := ne_of_digits each "false".toList ⟨'f', by decide⟩
  have held : holdable n = true := by
    have negative : -(Nat.pow 2 127 : Int) ≤ n := Int.le_trans (by decide) (Int.natCast_nonneg n)
    have bounded : (n : Int) < (Nat.pow 2 128 : Nat) := Int.ofNat_lt.2 fits
    simp only [holdable, Bool.and_eq_true, decide_eq_true_eq]
    exact ⟨negative, bounded⟩
  apply (takes_lexeme_digits each text_ne stops).done
  rw [scalarOfLexeme?, if_neg yes, if_neg no, isMoment_of_digits each, if_neg (by decide),
    number?_of_digits each text_ne head?_numberText, numberText, decimalValue_decimalText,
    ofInteger, Option.filter_some, if_pos held]

end Toml
end Boundary
