import Boundary.Instant.Calendar

/-!
Days and dates tell each other: the date of a day is a date of the calendar, and it leads back to
the day.
-/
namespace Boundary
namespace Date

theorem daysBeforeYear_mono {year later : Int} (le : year ≤ later) :
    daysBeforeYear year ≤ daysBeforeYear later := by
  simp only [daysBeforeYear]
  omega

theorem daysBeforeYear_succ (year : Int) : daysBeforeYear (year + 1) =
    daysBeforeYear year + if isLeapYear year then 366 else 365 := by
  simp only [daysBeforeYear, isLeapYear, Bool.and_eq_true, Bool.or_eq_true, decide_eq_true_eq]
  split <;> omega

theorem daysBeforeYear_le_of_yearOfDay (day : Int) : daysBeforeYear (yearOfDay day) ≤ day := by
  unfold yearOfDay
  simp only
  split
  · simp only [daysBeforeYear] at *
    omega
  · split <;> omega

theorem lt_daysBeforeYear_of_yearOfDay (day : Int) :
    day < daysBeforeYear (yearOfDay day + 1) := by
  unfold yearOfDay
  simp only
  split
  · simpa using ‹_›
  · split
    · assumption
    · simp only [daysBeforeYear] at *
      omega

theorem sum_monthLengths (year : Int) : (monthLengths year).foldr (· + ·) 0 =
    if isLeapYear year then 366 else 365 := by
  unfold monthLengths
  split <;> rfl

theorem splitMonths_of_lt {lengths : List Nat} {day : Nat}
    (inside : day < lengths.foldr (· + ·) 0) :
    (splitMonths lengths day).1 < lengths.length ∧
      (splitMonths lengths day).2 < lengths.getD (splitMonths lengths day).1 0 ∧
      (lengths.take (splitMonths lengths day).1).foldr (· + ·) 0 + (splitMonths lengths day).2 =
        day := by
  induction lengths generalizing day with
  | nil => simp at inside
  | cons length rest ih =>
    rw [splitMonths]
    split
    next early => simpa using early
    next late =>
      rw [List.foldr_cons] at inside
      have later : day - length < rest.foldr (· + ·) 0 := by omega
      obtain ⟨month, room, total⟩ := ih later
      refine ⟨Nat.succ_lt_succ month, room, ?_⟩
      simp only [List.take_succ_cons, List.foldr_cons]
      omega

theorem monthLengths_le (year : Int) : ∀ length ∈ monthLengths year, length ≤ 31 := by
  unfold monthLengths
  split <;> decide

theorem Valid.day_le {d : Date} (valid : d.Valid) : d.day ≤ 31 := by
  obtain ⟨-, -, -, room⟩ := valid
  apply Nat.le_trans room
  rw [List.getD_eq_getElem?_getD]
  cases found : (monthLengths d.year)[d.month - 1]? with
  | none => exact Nat.zero_le 31
  | some length => exact monthLengths_le d.year length (List.mem_of_getElem? found)

/-- The days of the year before `day` are fewer than the year has. -/
theorem dayOfYear_lt (day : Int) : (day - daysBeforeYear (yearOfDay day)).toNat <
    (monthLengths (yearOfDay day)).foldr (· + ·) 0 := by
  have low := daysBeforeYear_le_of_yearOfDay day
  have high := lt_daysBeforeYear_of_yearOfDay day
  rw [daysBeforeYear_succ] at high
  rw [sum_monthLengths]
  split at high <;> simp_all <;> omega

theorem valid_ofDay (day : Int) : (ofDay day).Valid := by
  obtain ⟨month, room, -⟩ := splitMonths_of_lt (dayOfYear_lt day)
  exact ⟨Nat.succ_pos _, month, Nat.succ_pos _, room⟩

theorem toDay_ofDay (day : Int) : (ofDay day).toDay = day := by
  obtain ⟨-, -, total⟩ := splitMonths_of_lt (dayOfYear_lt day)
  have low := daysBeforeYear_le_of_yearOfDay day
  simp only [toDay, ofDay, Nat.add_sub_cancel]
  omega

end Date
end Boundary
