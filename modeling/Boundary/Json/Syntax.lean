import Boundary.Text.Scanner
/-!
JSON texts.

An escaped code unit that is half of a pair is a character only next to the other half. A string
with a lone half is not a text, nor is an object with such a key readable; both are allowed where
nothing looks at them.
-/
namespace Boundary

inductive Json where
  | null
  | bool (b : Bool)
  | number (lexeme : String)
  | string (s : String)
  | array (items : List Json)
  | object (members : List (String × Json))
  /-- A string that is not a text, or an object with a key that is not. -/
  | unreadable
  deriving Repr, Inhabited

namespace Json

def isSpace (c : Char) : Bool := c = ' ' || c = '\n' || c = '\t' || c = '\r'

/-- A part of a string: a character or an escaped UTF-16 code unit. -/
inductive Piece where
  | char (c : Char)
  | unit (n : Nat)
  deriving DecidableEq, Repr, Inhabited

def IsLead (n : Nat) : Prop := 0xd800 ≤ n ∧ n < 0xdc00
def IsTrail (n : Nat) : Prop := 0xdc00 ≤ n ∧ n < 0xe000

instance (n : Nat) : Decidable (IsLead n) := inferInstanceAs (Decidable (_ ∧ _))
instance (n : Nat) : Decidable (IsTrail n) := inferInstanceAs (Decidable (_ ∧ _))

def joinPair (lead trail : Nat) : Char :=
  Char.ofNat (0x10000 + 0x400 * (lead - 0xd800) + (trail - 0xdc00))

/-- The characters that the pieces make up, if no half of a pair is alone. -/
def joinPieces : List Piece → Option (List Char)
  | [] => some []
  | .char c :: rest => (joinPieces rest).map (c :: ·)
  | .unit n :: .unit m :: rest =>
    if IsLead n ∧ IsTrail m then (joinPieces rest).map (joinPair n m :: ·)
    else if IsLead n ∨ IsTrail n then none
    else (joinPieces (.unit m :: rest)).map (Char.ofNat n :: ·)
  | .unit n :: rest =>
    if IsLead n ∨ IsTrail n then none else (joinPieces rest).map (Char.ofNat n :: ·)

def simpleEscape? : Char → Option Char
  | '"' => some '"'
  | '\\' => some '\\'
  | '/' => some '/'
  | 'b' => some '\x08'
  | 'f' => some '\x0c'
  | 'n' => some '\n'
  | 'r' => some '\r'
  | 't' => some '\t'
  | _ => none

/-- What stands between the opening quote, which is gone, and the closing one. -/
def pieces : List Char → Option (List Piece × List Char)
  | [] => none
  | '"' :: rest => some ([], rest)
  | '\\' :: 'u' :: a :: b :: c :: d :: rest =>
    if [a, b, c, d].all isHexDigit then
      (pieces rest).map fun (ps, rest) => (.unit (numberOfChars 16 [a, b, c, d]) :: ps, rest)
    else none
  | '\\' :: c :: rest =>
    match simpleEscape? c with
    | some e => (pieces rest).map fun (ps, rest) => (.char e :: ps, rest)
    | none => none
  | c :: rest =>
    if c.toNat < 0x20 then none
    else (pieces rest).map fun (ps, rest) => (.char c :: ps, rest)

def quoted : Scanner (Option String) := do
  Scanner.char '"'
  return (joinPieces (← (pieces : Scanner (List Piece)))).map String.ofList

/-- A whole part without leading zeros. -/
def wholeDigits : Scanner (List Char) := do
  let first ← Scanner.one Char.isDigit
  if first = '0' then return [first] else return first :: (← Scanner.many Char.isDigit)

/-- A sign, if there is one of `signs`. -/
def sign (signs : List Char) : Scanner (List Char) := Scanner.upTo 1 signs.contains

def numeral : Scanner String := do
  let negative ← sign ['-']
  let whole ← wholeDigits
  let fraction ← match ← Scanner.peek with
    | some '.' => pure ((← Scanner.one (· = '.')) :: (← Scanner.some Char.isDigit))
    | _ => pure []
  let marker ← Scanner.upTo 1 ['e', 'E'].contains
  let exponent ←
    if marker.isEmpty then pure []
    else pure ((← sign ['+', '-']) ++ (← Scanner.some Char.isDigit))
  return String.ofList (negative ++ whole ++ fraction ++ marker ++ exponent)

def ofMembers (members : List (Option String × Json)) : Json :=
  match members.mapM fun (key, v) => key.map (·, v) with
  | some members => .object members
  | none => .unreadable

/-- A value with the spaces around it. Each level of nesting takes a character, so `fuel` for
every character is enough. -/
def value : (fuel : Nat) → Scanner Json
  | 0 => Scanner.fail
  | fuel + 1 => do
    Scanner.skip isSpace
    let v ← match ← Scanner.peek with
      | some '"' => pure (((← quoted).map Json.string).getD .unreadable)
      | some '[' => do
        Scanner.char '['
        Scanner.skip isSpace
        let items ← if ← Scanner.ahead [']'] then pure []
          else Scanner.separated ',' (value fuel) fuel
        Scanner.char ']'
        pure (.array items)
      | some '{' => do
        let member : Scanner (Option String × Json) := do
          Scanner.skip isSpace
          let key ← quoted
          Scanner.skip isSpace
          Scanner.char ':'
          return (key, ← value fuel)
        Scanner.char '{'
        Scanner.skip isSpace
        let members ← if ← Scanner.ahead ['}'] then pure []
          else Scanner.separated ',' member fuel
        Scanner.char '}'
        pure (ofMembers members)
      | some 'n' => do
        Scanner.literal "null".toList
        pure .null
      | some 't' => do
        Scanner.literal "true".toList
        pure (.bool true)
      | some 'f' => do
        Scanner.literal "false".toList
        pure (.bool false)
      | _ => pure (.number (← numeral))
    Scanner.skip isSpace
    return v

def parse? (s : String) : Option Json := (value (s.length + 1)).all s.toList

end Json
end Boundary
