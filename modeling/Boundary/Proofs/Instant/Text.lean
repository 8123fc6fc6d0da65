import Boundary.Instant.Text
import Boundary.Proofs.Instant.Calendar
import Boundary.Proofs.Text.Decimal
import Boundary.Proofs.Text.Scans

/-!
An instant is read back from its text, leap seconds and years of any sign included.
-/
namespace Boundary
namespace Instant
open Scanner hiding some

theorem takes_number {digits : Scanner (List Char)} {run rest : List Char}
    (taken : Takes digits run rest run) (run_ne : run ≠ []) :
    Takes (number digits) run rest (decimalValue run) := by
  apply taken.done
  cases run with
  | nil => exact absurd rfl run_ne
  | cons c run => rfl

theorem stops_blank_decimalText (width n : Nat) (rest : List Char) :
    Stops isBlank (decimalText width n ++ rest) := by
  obtain ⟨c, digit, head⟩ := head?_decimalText width n rest
  exact stops_of_head? head (isBlank_of_isDigit digit)

theorem takes_shortNumber {width n : Nat} (places : 0 < width) (fits : n < Nat.pow 10 width)
    (rest : List Char) : Takes (shortNumber width) (decimalText width n) rest n := by
  have length := length_decimalText places fits
  have run : Takes (upTo width Char.isDigit) (decimalText width n) rest (decimalText width n) :=
    takes_upTo (fun c mem => isDigit_of_mem_decimalText mem) (Nat.le_of_eq length) (.inl length)
  have number := takes_number run (decimalText_ne_nil width n)
  rw [decimalValue_decimalText] at number
  exact (takes_skip_nothing (stops_blank_decimalText width n rest)).after number

theorem takes_part {separator : Char} {n : Nat} (visible : isBlank separator = false)
    (fits : n < 100) (rest : List Char) :
    Takes (part separator) (separator :: decimalText 2 n) rest n := by
  have number : Takes (shortNumber 2) (decimalText 2 n) rest n :=
    takes_shortNumber (by decide) fits rest
  exact (takes_skip_nothing (stops_cons visible)).after ((takes_char separator _).bind number)

theorem takes_yearScanner (year : Int) {rest : List Char} (stops : Stops Char.isDigit rest) :
    Takes yearScanner (yearText year) rest year := by
  unfold yearText
  split
  next plain =>
    have few : year.toNat < Nat.pow 10 4 := by
      simp only [Nat.reducePow, Nat.pow_eq]
      omega
    have number := takes_shortNumber (by decide) few rest
    apply (takes_skip_nothing (stops_blank_decimalText 4 year.toNat rest)).after
    apply (takes_peek _).after
    obtain ⟨c, digit, head⟩ := head?_decimalText 4 year.toNat rest
    rw [head]
    split
    next sign => cases sign; cases digit
    next sign => cases sign; cases digit
    · exact number.done (congrArg pure (Int.toNat_of_nonneg plain.1))
  next outside =>
    have number : Takes (number (many Char.isDigit)) (decimalText 4 year.natAbs) rest
        year.natAbs := by
      have digits : Takes (many Char.isDigit) (decimalText 4 year.natAbs) rest _ :=
        takes_many (fun c mem => isDigit_of_mem_decimalText mem) stops
      have number := takes_number digits (decimalText_ne_nil 4 year.natAbs)
      rwa [decimalValue_decimalText] at number
    split
    next negative =>
      apply (takes_skip_nothing (stops_cons (by decide))).after
      apply (takes_peek _).after
      exact (takes_char '-' _).bind (number.done (congrArg pure (by omega)))
    next positive =>
      apply (takes_skip_nothing (stops_cons (by decide))).after
      apply (takes_peek _).after
      exact (takes_char '+' _).bind (number.done (congrArg pure (by omega)))

theorem takes_fraction_digits {width n nanos : Nat} {rest : List Char} (places : 0 < width)
    (most : width ≤ 9) (fits : n < Nat.pow 10 width) (stops : Stops Char.isDigit rest)
    (value : n * Nat.pow 10 (9 - width) = nanos) :
    Takes fraction ('.' :: decimalText width n) rest nanos := by
  have length := length_decimalText places fits
  have run : Takes (upTo 9 Char.isDigit) (decimalText width n) rest (decimalText width n) :=
    takes_upTo (fun c mem => isDigit_of_mem_decimalText mem) (length.symm ▸ most) (.inr stops)
  refine (takes_peek _).after ((takes_char '.' _).bind (run.before ?_))
  apply (takes_skip_nothing stops).done
  rw [if_neg (by simp [decimalText_ne_nil]), decimalValue_decimalText, length, value]

/-- The digits of the fraction are as many as tell the nanoseconds. -/
theorem takes_fraction {nanos : Nat} {rest : List Char} (fits : nanos < nanosPerSecond)
    (stops : Stops Char.isDigit rest) (plain : rest.head? ≠ some '.') :
    Takes fraction (fractionText nanos) rest nanos := by
  unfold fractionText
  split
  next none =>
    subst none
    apply (takes_peek _).after
    split
    next point => exact absurd point plain
    · exact takes_pure 0 rest
  split
  next milliseconds =>
    have few : nanos / 1000000 < Nat.pow 10 3 := Nat.div_lt_of_lt_mul fits
    exact takes_fraction_digits (by decide) (by decide) few stops
      (Nat.div_mul_cancel (Nat.dvd_of_mod_eq_zero milliseconds))
  split
  next microseconds =>
    have few : nanos / 1000 < Nat.pow 10 6 := Nat.div_lt_of_lt_mul fits
    exact takes_fraction_digits (by decide) (by decide) few stops
      (Nat.div_mul_cancel (Nat.dvd_of_mod_eq_zero microseconds))
  · exact takes_fraction_digits (by decide) (by decide) fits stops (Nat.mul_one nanos)

theorem takes_offset : Takes offset ['Z'] [] 0 := by
  apply (takes_get _).after
  exact (takes_one (c := 'Z') (by decide) []).done rfl

variable {date : Date} {hour minute second nanos : Nat} {t : Instant}

/-- A text in the form of RFC 3339, at Greenwich, is read as the instant with these parts. -/
theorem takes_scanner (fits : nanos < nanosPerSecond)
    (found : ofLocal? date hour minute second nanos 0 = some t) :
    Takes scanner (yearText date.year ++ ('-' :: decimalText 2 date.month ++
      ('-' :: decimalText 2 date.day ++ ('T' :: decimalText 2 hour ++
      (':' :: decimalText 2 minute ++ (':' :: decimalText 2 second ++
      (fractionText nanos ++ ['Z']))))))) [] t := by
  obtain ⟨valid, -, -, hours, minutes, seconds, -⟩ : date.Valid ∧ earliestYear ≤ date.year ∧
      date.year ≤ latestYear ∧ hour < 24 ∧ minute < 60 ∧ second ≤ 60 ∧
      (0 : Int).natAbs < 24 * 60 := by
    unfold ofLocal? at found
    split at found
    next parts => exact parts
    · cases found
  have month : date.month < 100 := Nat.lt_of_le_of_lt valid.2.1 (by decide)
  have day : date.day < 100 := Nat.lt_of_le_of_lt valid.day_le (by decide)
  apply (takes_yearScanner date.year (stops_cons (by decide))).bind
  apply (takes_part (by decide) month _).bind
  apply (takes_part (by decide) day _).bind
  apply (takes_one (c := 'T') (by decide) _).bind
  apply (takes_shortNumber (by decide) (Nat.lt_trans hours (by decide)) _).bind
  apply (takes_part (by decide) (by omega) _).bind
  apply (takes_part (by decide) (by omega) _).bind
  apply (takes_fraction fits (stops_cons (by decide)) (by decide)).bind
  apply (takes_skip_nothing (stops_cons (by decide))).after
  apply takes_offset.before
  apply (takes_skip_nothing stops_nil).done
  rw [found]

theorem daysBeforeYear_earliestYear :
    Date.daysBeforeYear earliestYear = earliest / secondsPerDay + Date.epochDay := by decide

theorem daysBeforeYear_after_latestYear :
    Date.daysBeforeYear (latestYear + 1) = latest / secondsPerDay + Date.epochDay + 1 := by decide

/-- The seconds in range are those of the years that dates may be in. -/
theorem year_ofDay_of_inRange {seconds : Int} (inRange : InRange seconds) :
    earliestYear ≤ (Date.ofDay (seconds / secondsPerDay + Date.epochDay)).year ∧
      (Date.ofDay (seconds / secondsPerDay + Date.epochDay)).year ≤ latestYear := by
  have low : earliest / secondsPerDay ≤ seconds / secondsPerDay :=
    Int.ediv_le_ediv (by decide) inRange.1
  have high : seconds / secondsPerDay ≤ latest / secondsPerDay :=
    Int.ediv_le_ediv (by decide) inRange.2
  constructor
  · apply Int.not_lt.1
    intro early
    have before := Date.daysBeforeYear_mono (Int.add_one_le_of_lt early)
    have last := Date.lt_daysBeforeYear_of_yearOfDay (seconds / secondsPerDay + Date.epochDay)
    rw [daysBeforeYear_earliestYear] at before
    change Date.daysBeforeYear (Date.yearOfDay _ + 1) ≤ _ at before
    omega
  · apply Int.not_lt.1
    intro late
    have after := Date.daysBeforeYear_mono (Int.add_one_le_of_lt late)
    have first := Date.daysBeforeYear_le_of_yearOfDay (seconds / secondsPerDay + Date.epochDay)
    rw [daysBeforeYear_after_latestYear] at after
    change _ ≤ Date.daysBeforeYear (Date.yearOfDay _) at after
    omega

/-- The second on the clock and the nanoseconds after it. A leap second shows as the second 60 of
its minute. -/
def shownSecond (t : Instant) : Nat × Nat :=
  let time := (t.seconds % secondsPerDay).toNat
  if nanosPerSecond ≤ t.nanos then (time % 60 + 1, t.nanos - nanosPerSecond)
  else (time % 60, t.nanos)

theorem ofLocal?_ofDay {seconds : Int} {second nanos after : Nat} (inRange : InRange seconds)
    (shown : second ≤ 60)
    (told : (if second = 60 then (59, nanos + nanosPerSecond) else (second, nanos)) =
      ((seconds % secondsPerDay).toNat % 60, after)) :
    ofLocal? (Date.ofDay (seconds / secondsPerDay + Date.epochDay))
      ((seconds % secondsPerDay).toNat / 3600) ((seconds % secondsPerDay).toNat / 60 % 60)
      second nanos 0 = some ⟨seconds, after⟩ := by
  obtain ⟨low, high⟩ := year_ofDay_of_inRange inRange
  have start : 0 ≤ seconds % secondsPerDay := Int.emod_nonneg _ (by decide)
  have within : seconds % secondsPerDay < secondsPerDay := Int.emod_lt_of_pos _ (by decide)
  have whole := Int.mul_ediv_add_emod seconds secondsPerDay
  unfold secondsPerDay at start within whole
  have sum : ((Date.ofDay (seconds / secondsPerDay + Date.epochDay)).toDay - Date.epochDay)
      * secondsPerDay + (3600 * ((seconds % secondsPerDay).toNat / 3600)
        + 60 * ((seconds % secondsPerDay).toNat / 60 % 60)
        + (seconds % secondsPerDay).toNat % 60 : Nat) - 60 * 0 = seconds := by
    rw [Date.toDay_ofDay]
    unfold secondsPerDay
    omega
  rw [ofLocal?, if_pos ⟨Date.valid_ofDay _, low, high, by unfold secondsPerDay; omega,
    Nat.mod_lt _ (by decide), shown, by decide⟩]
  simp only [told, sum]
  rw [if_pos inRange]

theorem ofLocal?_shown {t : Instant} (regular : t.Regular) :
    ofLocal? (Date.ofDay (t.seconds / secondsPerDay + Date.epochDay))
      ((t.seconds % secondsPerDay).toNat / 3600) ((t.seconds % secondsPerDay).toNat / 60 % 60)
      t.shownSecond.1 t.shownSecond.2 0 = some t := by
  obtain ⟨⟨inRange, bounded⟩, leap⟩ := regular
  unfold shownSecond
  split
  next late =>
    have last := leap late
    have full : (t.seconds % secondsPerDay).toNat % 60 = 59 := by
      unfold secondsPerDay
      omega
    refine ofLocal?_ofDay inRange (by simp [full]) ?_
    simp [full, Nat.sub_add_cancel late]
  · have short := Nat.mod_lt (t.seconds % secondsPerDay).toNat (y := 60) (by decide)
    refine ofLocal?_ofDay inRange (Nat.le_of_lt short) ?_
    rw [if_neg (Nat.ne_of_lt short)]

theorem shownSecond_lt {t : Instant} (valid : t.Valid) : t.shownSecond.2 < nanosPerSecond := by
  obtain ⟨-, bounded⟩ := valid
  simp only [shownSecond]
  split
  · change t.nanos - nanosPerSecond < nanosPerSecond
    omega
  next early => exact Nat.not_le.1 early

theorem ofText?_toText {t : Instant} (regular : t.Regular) : ofText? t.toText = some t := by
  have taken := takes_scanner (shownSecond_lt regular.1) (ofLocal?_shown regular)
  simp only [← List.append_assoc] at taken
  rw [ofText?, toText, String.toList_ofList]
  exact Takes.all taken

end Instant
end Boundary
