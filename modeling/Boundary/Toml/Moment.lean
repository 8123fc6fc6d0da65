import Boundary.Instant.Calendar
import Boundary.Text.Scanner
/-!
Dates, times and both together, with or without a distance from Greenwich. Only whether they are
right is of interest.
-/
namespace Boundary
namespace Toml

def twoDigits : Scanner Nat := return decimalValue (← Scanner.exactly 2 Char.isDigit)

def date : Scanner Date := do
  let year := decimalValue (← Scanner.exactly 4 Char.isDigit)
  Scanner.char '-'
  let month ← twoDigits
  Scanner.char '-'
  let day ← twoDigits
  let d : Date := ⟨year, month, day⟩
  if d.Valid then return d else Scanner.fail

/-- A time of day. Seconds may be left out; without them there is no fraction. -/
def timeOfDay : Scanner Unit := do
  let hour ← twoDigits
  Scanner.char ':'
  let minute ← twoDigits
  let second ← match ← Scanner.peek with
    | some ':' => do
      Scanner.char ':'
      let second ← twoDigits
      match ← Scanner.peek with
      | some '.' => do
        Scanner.char '.'
        let _ ← Scanner.some Char.isDigit
        pure second
      | _ => pure second
    | _ => pure 0
  if hour < 24 && minute < 60 && second ≤ 60 then return () else Scanner.fail

/-- A distance from Greenwich of less than a day. -/
def distance : Scanner Unit := do
  let sign ← Scanner.one ['Z', 'z', '+', '-'].contains
  if sign.toUpper = 'Z' then return ()
  else do
    let hours ← twoDigits
    Scanner.char ':'
    let minutes ← twoDigits
    if hours < 24 && minutes < 60 then return () else Scanner.fail

def dateAndTime : Scanner Unit := do
  let _ ← date
  let _ ← Scanner.one ['T', 't', ' '].contains
  timeOfDay

def isDate (lexeme : List Char) : Bool := (date.all lexeme).isSome

def isMoment (lexeme : List Char) : Bool :=
  isDate lexeme || (timeOfDay.all lexeme).isSome || (dateAndTime.all lexeme).isSome ||
    ((do dateAndTime; distance : Scanner Unit).all lexeme).isSome

end Toml
end Boundary
