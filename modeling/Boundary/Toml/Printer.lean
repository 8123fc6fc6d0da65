import Boundary.Toml.Syntax
/-!
Keys and strings as they are written.

The first style that holds a string as it is gets chosen: double quotes, single quotes, three
double quotes, three single quotes. Only if there is none, double quotes with escapes are used.
-/
namespace Boundary
namespace Toml

/-- The longest run of `quote`. -/
def longestRun (quote : Char) : (run : Nat) → List Char → Nat
  | run, [] => run
  | run, c :: rest =>
    if c = quote then longestRun quote (run + 1) rest else max run (longestRun quote 0 rest)

/-- A character that only an escape can tell. Tabs and newlines are not among them. -/
def needsEscape (c : Char) : Bool := isControl c && c ≠ '\n'

def hexDigit (n : Nat) : Char := (Nat.digitChar n).toUpper

def escape (c : Char) : List Char :=
  match c with
  | '\x08' => ['\\', 'b']
  | '\t' => ['\\', 't']
  | '\n' => ['\\', 'n']
  | '\x0c' => ['\\', 'f']
  | '\r' => ['\\', 'r']
  | '"' => ['\\', '"']
  | '\\' => ['\\', '\\']
  | c => ['\\', 'u', '0', '0', hexDigit (c.toNat / 16), hexDigit (c.toNat % 16)]

/-- The content of a string with escapes. In a block newlines stay, and so do quotes that come
after less than `2` others. -/
def escapeAll (block : Bool) : (quotes : Nat) → List Char → List Char
  | _, [] => []
  | quotes, c :: rest =>
    if block && c = '"' && quotes < 2 then c :: escapeAll block (quotes + 1) rest
    else if c = '"' || c = '\\' || (isControl c && !(block && c = '\n')) || c = '\t' then
      escape c ++ escapeAll block 0 rest
    else c :: escapeAll block 0 rest

inductive Style where
  | basic
  | literal
  | blockBasic
  | blockLiteral
  deriving DecidableEq, Repr, Inhabited

def styleOf (text : List Char) : Style :=
  let doubles := longestRun '"' 0 text
  let singles := longestRun '\'' 0 text
  let escapes := text.any needsEscape
  let backslash := text.contains '\\'
  let newline := text.contains '\n'
  if !escapes && !backslash && doubles = 0 && !newline then .basic
  else if !escapes && singles = 0 && !newline then .literal
  else if !escapes && !backslash && doubles ≤ 2 then .blockBasic
  else if !escapes && singles ≤ 2 then .blockLiteral
  else if newline then .blockBasic
  else .basic

/-- A block whose text has a newline starts on a line of its own. -/
def blockText (quote : Char) (newline : Bool) (content : List Char) : List Char :=
  [quote, quote, quote] ++ (if newline then ['\n'] else []) ++ content ++ [quote, quote, quote]

def stringText (s : String) : List Char :=
  let text := s.toList
  let newline := text.contains '\n'
  match styleOf text with
  | .basic => '"' :: escapeAll false 0 text ++ ['"']
  | .literal => '\'' :: text ++ ['\'']
  | .blockBasic => blockText '"' newline (escapeAll true 0 text)
  | .blockLiteral => blockText '\'' newline text

def keyText (key : String) : List Char :=
  let text := key.toList
  let controls := text.any isControl
  if !text.isEmpty && text.all isBareKey then text
  else if !controls && !text.contains '\\' && !text.contains '"' then
    '"' :: escapeAll false 0 text ++ ['"']
  else if !controls && !text.contains '\'' then '\'' :: text ++ ['\'']
  else '"' :: escapeAll false 0 text ++ ['"']

/-- A line that assigns a text that is written already. -/
def line (key : String) (text : List Char) : List Char :=
  keyText key ++ " = ".toList ++ text ++ ['\n']

def numberText (n : Nat) : List Char := decimalText 1 n

end Toml
end Boundary
