/-!
The proleptic Gregorian calendar: the year 0 comes before the year 1, and days are counted from
the first day of the year 1.
-/
namespace Boundary

structure Date where
  year : Int
  month : Nat
  day : Nat
  deriving DecidableEq, Repr, Inhabited

namespace Date

def isLeapYear (year : Int) : Bool := year % 4 = 0 && (year % 100 ≠ 0 || year % 400 = 0)

def monthLengths (year : Int) : List Nat :=
  [31, if isLeapYear year then 29 else 28, 31, 30, 31, 30, 31, 31, 30, 31, 30, 31]

/-- The days in the years before `year`. -/
def daysBeforeYear (year : Int) : Int :=
  let last := year - 1
  365 * last + last / 4 - last / 100 + last / 400

/-- The year that the day `day` is in. A mean year has 146097 / 400 days, which leads to the year
itself or to one beside it. -/
def yearOfDay (day : Int) : Int :=
  let guess := 400 * day / 146097 + 1
  if day < daysBeforeYear guess then guess - 1
  else if day < daysBeforeYear (guess + 1) then guess
  else guess + 1

/-- The position of the month that the day `day` of a year is in, and the days before it in the
month. -/
def splitMonths : (lengths : List Nat) → (day : Nat) → Nat × Nat
  | [], day => (0, day)
  | length :: rest, day =>
    if day < length then (0, day)
    else
      let (month, day) := splitMonths rest (day - length)
      (month + 1, day)

def Valid (d : Date) : Prop :=
  1 ≤ d.month ∧ d.month ≤ 12 ∧ 1 ≤ d.day ∧ d.day ≤ (monthLengths d.year).getD (d.month - 1) 0

instance (d : Date) : Decidable d.Valid := inferInstanceAs (Decidable (_ ∧ _ ∧ _ ∧ _))

def ofDay (day : Int) : Date :=
  let year := yearOfDay day
  let (month, dayOfMonth) := splitMonths (monthLengths year) (day - daysBeforeYear year).toNat
  ⟨year, month + 1, dayOfMonth + 1⟩

def toDay (d : Date) : Int :=
  let before : Nat := ((monthLengths d.year).take (d.month - 1)).foldr (· + ·) 0
  daysBeforeYear d.year + before + (d.day - 1 : Nat)

/-- The day that starts at the second 0. -/
def epochDay : Int := 719162

end Date
end Boundary
