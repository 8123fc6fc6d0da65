import Boundary.Instant
import Boundary.Instant.Calendar
import Boundary.Text.Blank
import Boundary.Text.Scanner
/-!
Instants as texts in the form of RFC 3339.

Reading is lenient: blanks may surround the separators, a date and its time may be apart by a
space, numbers may lack leading zeros and a year may have a sign. The second 60 is a leap second.
-/
namespace Boundary
namespace Instant

def secondsPerDay : Int := 86400

def yearText (year : Int) : List Char :=
  if 0 ≤ year ∧ year ≤ 9999 then decimalText 4 year.toNat
  else (if year < 0 then '-' else '+') :: decimalText 4 year.natAbs

/-- Nothing, or a point and three, six or nine digits: as few as tell the nanoseconds. -/
def fractionText (nanos : Nat) : List Char :=
  if nanos = 0 then []
  else if nanos % 1000000 = 0 then '.' :: decimalText 3 (nanos / 1000000)
  else if nanos % 1000 = 0 then '.' :: decimalText 6 (nanos / 1000)
  else '.' :: decimalText 9 nanos

def toChars (t : Instant) : List Char :=
  let date := Date.ofDay (t.seconds / secondsPerDay + Date.epochDay)
  let time := (t.seconds % secondsPerDay).toNat
  let (second, nanos) :=
    if nanosPerSecond ≤ t.nanos then (time % 60 + 1, t.nanos - nanosPerSecond)
    else (time % 60, t.nanos)
  yearText date.year ++ '-' :: decimalText 2 date.month ++ '-' :: decimalText 2 date.day
    ++ 'T' :: decimalText 2 (time / 3600) ++ ':' :: decimalText 2 (time / 60 % 60)
    ++ ':' :: decimalText 2 second ++ fractionText nanos ++ ['Z']

def toText (t : Instant) : String := String.ofList t.toChars

/-- A number of one digit or more. -/
def number (digits : Scanner (List Char)) : Scanner Nat := do
  match ← digits with
  | [] => Scanner.fail
  | run => return decimalValue run

/-- A number of at most `most` digits, after blanks. -/
def shortNumber (most : Nat) : Scanner Nat := do
  Scanner.skip isBlank
  number (Scanner.upTo most Char.isDigit)

/-- A year: with a sign it may have any number of digits, without one four. -/
def yearScanner : Scanner Int := do
  Scanner.skip isBlank
  match ← Scanner.peek with
  | some '-' => do
    Scanner.char '-'
    return -(← number (Scanner.many Char.isDigit))
  | some '+' => do
    Scanner.char '+'
    return (← number (Scanner.many Char.isDigit))
  | _ => return (← shortNumber 4)

/-- A number of at most two digits after `separator`. -/
def part (separator : Char) : Scanner Nat := do
  Scanner.skip isBlank
  Scanner.char separator
  shortNumber 2

/-- The nanoseconds of a fraction. Digits after the ninth are skipped. -/
def fraction : Scanner Nat := do
  match ← Scanner.peek with
  | some '.' => do
    Scanner.char '.'
    let run ← Scanner.upTo 9 Char.isDigit
    Scanner.skip Char.isDigit
    if run.isEmpty then Scanner.fail
    else return decimalValue run * Nat.pow 10 (9 - run.length)
  | _ => return 0

/-- The hours and minutes by which a local time is away from Greenwich, in minutes. -/
def distance : Scanner Nat := do
  let hours ← Scanner.exactly 2 Char.isDigit
  Scanner.skip fun c => c = ':' || isBlank c
  let minutes ← Scanner.exactly 2 Char.isDigit
  if decimalValue minutes < 60 then return 60 * decimalValue hours + decimalValue minutes
  else Scanner.fail

/-- The distance to the east in minutes: `UTC`, `Z` or a signed distance. -/
def offset : Scanner Int := do
  let text ← get
  if (text.take 3).map Char.toUpper = ['U', 'T', 'C'] then do
    set (text.drop 3)
    return 0
  else do
    let sign ← Scanner.one fun c => "Zz+-−".toList.contains c
    if sign.toUpper = 'Z' then return 0
    else if sign = '+' then return (← distance)
    else return -(← distance)

/-- The years that dates may be in. -/
def earliestYear : Int := -262143
def latestYear : Int := 262142

/-- The instant at a local time; `offset` is in minutes. -/
def ofLocal? (date : Date) (hour minute second nanos : Nat) (offset : Int) : Option Instant :=
  if date.Valid ∧ earliestYear ≤ date.year ∧ date.year ≤ latestYear
      ∧ hour < 24 ∧ minute < 60 ∧ second ≤ 60 ∧ offset.natAbs < 24 * 60 then
    let (second, nanos) := if second = 60 then (59, nanos + nanosPerSecond) else (second, nanos)
    let seconds := (date.toDay - Date.epochDay) * secondsPerDay
      + (3600 * hour + 60 * minute + second : Nat) - 60 * offset
    if InRange seconds then some ⟨seconds, nanos⟩ else none
  else none

def scanner : Scanner Instant := do
  let year ← yearScanner
  let month ← part '-'
  let day ← part '-'
  let _ ← Scanner.one fun c => c = 't' || c = 'T' || c = ' '
  let hour ← shortNumber 2
  let minute ← part ':'
  let second ← part ':'
  let nanos ← fraction
  Scanner.skip isBlank
  let offset ← offset
  Scanner.skip isBlank
  match ofLocal? ⟨year, month, day⟩ hour minute second nanos offset with
  | some t => return t
  | none => Scanner.fail

def ofText? (s : String) : Option Instant := scanner.all s.toList

end Instant
end Boundary
