/-!
Scanners: each takes what it reads from the front of a text, or fails.
-/
namespace Boundary

abbrev Scanner (α : Type) := StateT (List Char) Option α

namespace Scanner

def fail : Scanner α := fun _ => none

/-- The next character, which has to satisfy `p`. -/
def one (p : Char → Bool) : Scanner Char
  | [] => none
  | c :: rest => if p c then some (c, rest) else none

def char (c : Char) : Scanner Unit := do let _ ← one (· = c)

/-- The next character, which stays where it is. -/
def peek : Scanner (Option Char) := fun text => some (text.head?, text)

/-- Whether the text goes on with `start`, which stays where it is. -/
def ahead (start : List Char) : Scanner Bool := fun text => some (start.isPrefixOf text, text)

def literal : List Char → Scanner Unit
  | [] => return ()
  | c :: rest => do
    char c
    literal rest

/-- The longest run of characters that satisfy `p`. -/
def many (p : Char → Bool) : Scanner (List Char) := fun text =>
  some (text.takeWhile p, text.dropWhile p)

def skip (p : Char → Bool) : Scanner Unit := do let _ ← many p

def some (p : Char → Bool) : Scanner (List Char) := return (← one p) :: (← many p)

/-- The longest run of characters that satisfy `p`, but not more than `most`. -/
def upTo (most : Nat) (p : Char → Bool) : Scanner (List Char) := fun text =>
  let run := (text.take most).takeWhile p
  Option.some (run, text.drop run.length)

/-- Exactly `n` characters that satisfy `p`. -/
def exactly (n : Nat) (p : Char → Bool) : Scanner (List Char) := do
  let run ← upTo n p
  if run.length = n then return run else fail

/-- What is left once `s` has read the text, or `none` in place of what it cannot read. -/
def attempt (s : Scanner α) : Scanner (Option α) := fun text =>
  match s text with
  | Option.some (a, rest) => Option.some (Option.some a, rest)
  | none => Option.some (none, text)

/-- What `s` reads from a whole text. -/
def all (s : Scanner α) (text : List Char) : Option α :=
  match s text with
  | Option.some (a, []) => Option.some a
  | _ => none

/-- One or more values with `separator` between them; `fuel` bounds their number. -/
def separated (separator : Char) (item : Scanner α) : (fuel : Nat) → Scanner (List α)
  | 0 => fail
  | fuel + 1 => do
    let first ← item
    match ← attempt (char separator) with
    | none => return [first]
    | Option.some _ => return first :: (← separated separator item fuel)

end Scanner

/-- The number that digits spell in base `base`, the most significant first. -/
def digitsValue (base : Nat) (digits : List Nat) : Nat :=
  digits.foldl (fun n d => base * n + d) 0

/-- The value of a hexadecimal digit, of either case. -/
def hexValue? (c : Char) : Option Nat :=
  if '0' ≤ c ∧ c ≤ '9' then some (c.toNat - '0'.toNat)
  else if 'a' ≤ c ∧ c ≤ 'f' then some (c.toNat - 'a'.toNat + 10)
  else if 'A' ≤ c ∧ c ≤ 'F' then some (c.toNat - 'A'.toNat + 10)
  else none

def isHexDigit (c : Char) : Bool := (hexValue? c).isSome

/-- The number that hexadecimal digits spell; other digit sets are contained in them. -/
def numberOfChars (base : Nat) (digits : List Char) : Nat :=
  digitsValue base (digits.map fun c => (hexValue? c).getD 0)

def decimalValue (digits : List Char) : Nat := numberOfChars 10 digits

/-- The decimal digits of `n`, at least `width` of them. -/
def decimalText (width n : Nat) : List Char :=
  let digits := Nat.toDigits 10 n
  List.replicate (width - digits.length) '0' ++ digits

end Boundary
