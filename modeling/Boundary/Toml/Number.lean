import Boundary.Text.Scanner
import Boundary.Toml.Value
/-!
Numbers of configuration texts.

A whole number in base ten may have a sign, but no leading zeros; in base 16, 8 and 2 it has a
prefix and no sign. Single underscores may stand between digits. A word of this form is a number
even if nothing can hold it: with too many digits or none, or with digits of base 16 behind an
underscore in base ten.
-/
namespace Boundary
namespace Toml

/-- Every underscore stands between two digits. `mayGroup` tells whether one may come first. -/
def groupedAfter (isDigit : Char → Bool) : (mayGroup : Bool) → List Char → Bool
  | _, [] => true
  | mayGroup, c :: rest =>
    if c = '_' then mayGroup && rest.head?.any isDigit && groupedAfter isDigit false rest
    else groupedAfter isDigit (isDigit c) rest

/-- No underscore comes first, and every other one stands between two digits or between the first
character and a digit. -/
def wellGrouped (isDigit : Char → Bool) : List Char → Bool
  | [] => true
  | c :: rest => c ≠ '_' && groupedAfter isDigit true rest

def ungrouped (word : List Char) : List Char := word.filter (· ≠ '_')

/-- What comes after the sign, if there is one. -/
def unsigned : List Char → List Char
  | c :: rest => if c = '+' || c = '-' then rest else c :: rest
  | [] => []

/-- The base of a prefix and what comes after it. -/
def radix? : List Char → Option (Nat × List Char)
  | '0' :: 'x' :: rest => some (16, rest)
  | '0' :: 'o' :: rest => some (8, rest)
  | '0' :: 'b' :: rest => some (2, rest)
  | _ => none

def isDigitOf (base : Nat) (c : Char) : Bool := (hexValue? c).any (· < base)

/-- The number that the digits of a base spell, if there is a digit and no other character. -/
def naturalOf? (base : Nat) (word : List Char) : Option Nat :=
  if !word.isEmpty && word.all (isDigitOf base) then some (numberOfChars base word) else none

/-- The number that digits of base ten spell behind a sign. -/
def integerOf? (word : List Char) : Option Int :=
  (naturalOf? 10 (unsigned word)).map fun n => if word.head? = some '-' then -(n : Int) else n

/-- 128 bits hold the number with a sign or without. -/
def holdable (n : Int) : Bool := -(Nat.pow 2 127 : Int) ≤ n && n < Nat.pow 2 128

/-- A decimal fraction: its digits, how many of them come after the point, and the exponent. -/
structure Decimal where
  digits : List Char
  places : Nat
  exponent : Int
  deriving Repr, Inhabited

/-- Half a unit above the greatest finite number of the 64-bit format: from here on, numbers
round to infinity. -/
def infinityFrom : Nat := Nat.pow 2 1024 - Nat.pow 2 970

/-- The number rounds to a finite one. Powers of ten beyond 400 either way decide by
themselves. -/
def Decimal.finite (d : Decimal) : Bool :=
  let m := decimalValue d.digits
  let shift := d.exponent - d.places
  if m = 0 then true
  else if 0 ≤ shift then shift ≤ 400 && m * Nat.pow 10 shift.toNat < infinityFrom
  else if shift < -(d.digits.length + 400 : Int) then true
  else m < infinityFrom * Nat.pow 10 (-shift).toNat

/-- Digits with underscores among them. Without `leadingZeros` only zero itself begins with 0. -/
def digitRun (leadingZeros : Bool) : Scanner (List Char) := do
  let run ← Scanner.many fun c => c.isDigit || c = '_'
  let digits := ungrouped run
  if digits.isEmpty || (!leadingZeros && 1 < digits.length && run.head? = some '0') then
    Scanner.fail
  else return digits

/-- Whole digits, then a fraction, an exponent or both. -/
def fractional : Scanner Decimal := do
  let whole ← digitRun false
  let fraction ← match ← Scanner.peek with
    | some '.' => do
      Scanner.char '.'
      digitRun true
    | _ => pure []
  match ← Scanner.attempt (Scanner.one fun c => c = 'e' || c = 'E') with
  | some _ => do
    let sign ← Scanner.upTo 1 ['+', '-'].contains
    let size : Int := decimalValue (← digitRun true)
    return ⟨whole ++ fraction, fraction.length, if sign = ['-'] then -size else size⟩
  | none => return ⟨whole ++ fraction, fraction.length, 0⟩

def ofInteger (word : List Char) (n : Option Int) : Toml :=
  match n.filter holdable with
  | some n => .integer n
  | none => .unreadable (String.ofList word)

def ofFloat (word : List Char) (finite : Bool) : Toml :=
  if finite then .float (String.ofList word) else .unreadable (String.ofList word)

/-- The number that a word is by its form. -/
def number? (word : List Char) : Option Toml :=
  let value := unsigned word
  let tail := value.dropWhile Char.isDigit
  if let some (base, digits) := radix? word then
    if digits.all (fun c => isDigitOf base c || c = '_') && wellGrouped (isDigitOf 16) digits then
      some (ofInteger word ((naturalOf? base (ungrouped digits)).map Int.ofNat))
    else none
  else if value = "inf".toList || value = "nan".toList then some (ofFloat word true)
  else if tail.any ['.', 'e', 'E'].contains then
    if wellGrouped Char.isDigit word then
      (fractional.all value).map fun d => ofFloat word d.finite
    else none
  else if value.isEmpty || (value.head? = some '0' && value ≠ ['0']) then none
  else if (tail.isEmpty || tail.head? = some '_') && wellGrouped (isDigitOf 16) word then
    some (ofInteger word (integerOf? (ungrouped word)))
  else none

end Toml
end Boundary
