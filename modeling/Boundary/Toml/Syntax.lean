import Boundary.Toml.Moment
import Boundary.Toml.Number
import Boundary.Toml.Quoted
import Boundary.Toml.Tree
/-!
Configuration texts.

A text is a sequence of lines, each a header, an assignment or nothing, with a comment behind it.
Arrays and inline tables may span lines and end in a comma; no key with points does.
-/
namespace Boundary
namespace Toml

/-- How deep arrays and inline tables may be nested, and how many keys may follow one another. -/
def maxDepth : Nat := 80

def isBareKey (c : Char) : Bool := c.isAlphanum || c = '_' || c = '-'

def spaces : Scanner Unit := Scanner.skip isSpace

def comment : Scanner Unit := do
  match ← Scanner.peek with
  | some '#' => Scanner.skip fun c => !isControl c
  | _ => return ()

/-- Spaces, comments and newlines. -/
def gapWithin : (fuel : Nat) → Scanner Unit
  | 0 => Scanner.fail
  | fuel + 1 => do
    spaces
    comment
    match ← Scanner.attempt newline with
    | some _ => gapWithin fuel
    | none => return ()

def gap : Scanner Unit := bounded gapWithin

def simpleKey : Scanner String := do
  match ← Scanner.peek with
  | some '"' | some '\'' => inlineString
  | _ => return String.ofList (← Scanner.some isBareKey)

/-- Keys with points between them: the path of tables and the last key. -/
def dottedKey : Scanner (List String × String) := do
  let part : Scanner String := do
    spaces
    let key ← simpleKey
    spaces
    return key
  let keys ← bounded (Scanner.separated '.' part)
  if keys.length ≤ maxDepth then return (keys.dropLast, keys.getLastD "") else Scanner.fail

/-- Items with commas between them up to `close`, over lines. -/
def itemsWithin (item : Scanner α) (close : Char) : (fuel : Nat) → Scanner (List α)
  | 0 => Scanner.fail
  | fuel + 1 => do
    gap
    if (← Scanner.peek) = some close then do
      Scanner.char close
      return []
    else do
      let first ← item
      gap
      if (← Scanner.peek) = some ',' then do
        Scanner.char ','
        return first :: (← itemsWithin item close fuel)
      else do
        Scanner.char close
        return [first]

def items (item : Scanner α) (close : Char) : Scanner (List α) := bounded (itemsWithin item close)

/-- A character that does not end a word. -/
def isLexeme (c : Char) : Bool :=
  !(isSpace c || ['=', ',', '[', ']', '\x7b', '\x7d', '#', '\r', '\n'].contains c)

/-- A word, or a date and a time with a space between them. -/
def lexeme : Scanner (List Char) := do
  let word ← Scanner.some isLexeme
  match isDate word, ← get with
  | true, ' ' :: c :: _ =>
    if c.isDigit then do
      Scanner.char ' '
      return word ++ ' ' :: (← Scanner.some isLexeme)
    else return word
  | _, _ => return word

def scalarOfLexeme? (word : List Char) : Option Toml :=
  if word = "true".toList then some (.bool true)
  else if word = "false".toList then some (.bool false)
  else if isMoment word then some (.datetime (String.ofList word))
  else number? word

def scalar : Scanner Toml := do
  match scalarOfLexeme? (← lexeme) with
  | some v => return v
  | none => Scanner.fail

/-- A key, or several, with its value. `between` may stand around the sign between them. -/
def assignment (between : Scanner Unit) (value : Scanner Toml) :
    Scanner (List String × String × Toml) := do
  let (path, name) ← dottedKey
  between
  Scanner.char '='
  between
  return (path, name, ← value)

def flatValue : Scanner Toml := do
  match ← Scanner.peek with
  | some '"' | some '\'' => return .string (← quoted)
  | _ => scalar

/-- A value with at most `depth` arrays and inline tables inside each other. -/
def value : (depth : Nat) → Scanner Toml
  | 0 => flatValue
  | depth + 1 => do
    match ← Scanner.peek with
    | some '[' => do
      Scanner.char '['
      return .array (← items (value depth) ']')
    | some '{' => do
      Scanner.char '{'
      match ofAssignments? (← items (assignment gap (value depth)) '}') with
      | some v => return v
      | none => Scanner.fail
    | _ => flatValue

def header : Scanner Statement := do
  Scanner.char '['
  if (← Scanner.peek) = some '[' then do
    Scanner.char '['
    let (path, name) ← dottedKey
    Scanner.literal [']', ']']
    return .element path name
  else do
    let (path, name) ← dottedKey
    Scanner.char ']'
    return .header path name

/-- The statement of a line, if it has one, with the spaces around it. -/
def statement : Scanner (Option Statement) := do
  spaces
  let found ← match ← Scanner.peek with
    | none | some '#' | some '\n' | some '\r' => pure none
    | some '[' => some <$> header
    | _ => do
      let (path, name, v) ← assignment spaces (value maxDepth)
      pure (some (.assign path name v))
  spaces
  comment
  return found

def lines : (fuel : Nat) → Scanner (List Statement)
  | 0 => Scanner.fail
  | fuel + 1 => do
    let found ← statement
    if (← get).isEmpty then return found.toList
    else do
      let _ ← newline
      return found.toList ++ (← lines fuel)

/-- A mark in front of a text that says nothing but that it is one. -/
def byteOrderMark : Char := '\ufeff'

/-- The entries of the root table. -/
def parse? (s : String) : Option (List (String × Toml)) := do
  let text := if s.toList.head? = some byteOrderMark then s.toList.drop 1 else s.toList
  ofStatements? (← (bounded lines).all text)

end Toml
end Boundary
