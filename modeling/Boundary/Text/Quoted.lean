import Boundary.Text.Hidden
/-!
Texts between double quotes, with escapes for what could not be told apart otherwise.
-/
namespace Boundary

/-- The digits of a code point in base 16, without leading zeros. -/
def codePointText (c : Char) : List Char := Nat.toDigits 16 c.toNat

def escapeShown (c : Char) : List Char :=
  match c with
  | '\x00' => ['\\', '0']
  | '\t' => ['\\', 't']
  | '\r' => ['\\', 'r']
  | '\n' => ['\\', 'n']
  | '"' => ['\\', '"']
  | '\\' => ['\\', '\\']
  | c => if isHidden c then "\\u\x7b".toList ++ codePointText c ++ ['\x7d'] else [c]

def quotedText (s : String) : String :=
  String.ofList ('"' :: s.toList.flatMap escapeShown ++ ['"'])

end Boundary
