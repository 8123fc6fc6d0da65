import Boundary.Text.Scanner
/-!
Strings of configuration texts.

A basic string stands between double quotes and knows escapes, a literal one between single quotes
and knows none. Either may stand between three quotes on each side and then span lines; the first
newline is dropped, and up to two quotes may come right before the closing ones.
-/
namespace Boundary
namespace Toml

def isSpace (c : Char) : Bool := c = ' ' || c = '\t'

/-- A character that no string holds as it is. -/
def isControl (c : Char) : Bool := (c.toNat < 0x20 && c ≠ '\t') || c.toNat = 0x7f

/-- The end of a line. -/
def newline : Scanner (List Char)
  | '\n' :: rest => some (['\n'], rest)
  | '\r' :: '\n' :: rest => some (['\r', '\n'], rest)
  | _ => none

/-- Skips spaces and newlines. -/
def skipLines : List Char → List Char
  | '\r' :: '\n' :: rest => skipLines rest
  | c :: rest => if isSpace c || c = '\n' then skipLines rest else c :: rest
  | [] => []

def simpleEscape? : Char → Option Char
  | 'b' => some '\x08'
  | 't' => some '\t'
  | 'n' => some '\n'
  | 'f' => some '\x0c'
  | 'r' => some '\r'
  | 'e' => some '\x1b'
  | '"' => some '"'
  | '\\' => some '\\'
  | _ => none

/-- How many digits spell the number of a character after this letter. -/
def escapeWidth? : Char → Option Nat
  | 'x' => some 2
  | 'u' => some 4
  | 'U' => some 8
  | _ => none

def charOfNumber? (n : Nat) : Option Char :=
  if n.isValidChar then some (Char.ofNat n) else none

/-- A character after a backslash, which is gone. -/
def escaped : Scanner Char := do
  let c ← Scanner.one fun _ => true
  match simpleEscape? c, escapeWidth? c with
  | some e, _ => return e
  | none, some width => do
    match charOfNumber? (numberOfChars 16 (← Scanner.exactly width isHexDigit)) with
    | some e => return e
    | none => Scanner.fail
  | none, none => Scanner.fail

/-- What stands before the closing double quote. -/
def basicRest : (fuel : Nat) → Scanner (List Char)
  | 0 => Scanner.fail
  | fuel + 1 => do
    let c ← Scanner.one fun c => !isControl c
    if c = '"' then return []
    else if c = '\\' then return (← escaped) :: (← basicRest fuel)
    else return c :: (← basicRest fuel)

def literalRest : Scanner (List Char) := do
  let content ← Scanner.many fun c => !isControl c && c ≠ '\''
  Scanner.char '\''
  return content

/-- The quotes of a closing mark that belong to the string, if there are three or more of them. -/
def closing? (quote : Char) : Scanner (Option (List Char)) := do
  let run ← Scanner.upTo 5 (· = quote)
  if run.length < 3 then do
    set (run ++ (← get))
    return none
  else return some (run.drop 3)

/-- A backslash at the end of a line joins the line to the next one that is not blank. -/
def joinsLines (text : List Char) : Bool := (newline (text.dropWhile isSpace)).isSome

def blockBasicRest : (fuel : Nat) → Scanner (List Char)
  | 0 => Scanner.fail
  | fuel + 1 => do
    match ← closing? '"' with
    | some quotes => return quotes
    | none =>
      match ← Scanner.attempt newline with
      | some line => return line ++ (← blockBasicRest fuel)
      | none => do
        let c ← Scanner.one fun c => !isControl c
        if c = '\\' then do
          if joinsLines (← get) then modify skipLines
          else return (← escaped) :: (← blockBasicRest fuel)
          blockBasicRest fuel
        else return c :: (← blockBasicRest fuel)

def blockLiteralRest : (fuel : Nat) → Scanner (List Char)
  | 0 => Scanner.fail
  | fuel + 1 => do
    match ← closing? '\'' with
    | some quotes => return quotes
    | none =>
      match ← Scanner.attempt newline with
      | some line => return line ++ (← blockLiteralRest fuel)
      | none => do
        let c ← Scanner.one fun c => !isControl c
        return c :: (← blockLiteralRest fuel)

/-- A step for every character left. -/
def bounded (s : Nat → Scanner α) : Scanner α := fun text => s (text.length + 1) text

/-- A string on one line. -/
def inlineString : Scanner String := do
  let quote ← Scanner.one fun c => c = '"' || c = '\''
  return String.ofList (← if quote = '"' then bounded basicRest else literalRest)

/-- A string that may span lines, after its opening quotes. -/
def block (rest : Nat → Scanner (List Char)) : Scanner String := do
  let _ ← Scanner.attempt newline
  return String.ofList (← bounded rest)

def quoted : Scanner String := do
  if ← Scanner.ahead ['"', '"', '"'] then do
    Scanner.literal ['"', '"', '"']
    block blockBasicRest
  else if ← Scanner.ahead ['\'', '\'', '\''] then do
    Scanner.literal ['\'', '\'', '\'']
    block blockLiteralRest
  else inlineString

end Toml
end Boundary
