import Boundary.Value
import Boundary.Wire.Error
/-!
The encoding of values.

Numbers are big-endian words, an optional value follows a flag byte, and everything that varies
in length follows a four-byte count of its parts. The fields of a record follow each other.
-/
namespace Boundary

/-- The greatest length that a length prefix can hold. -/
def maxLength : Nat := 2147483647

/-- A length prefix. It is checked against `maxLength` by `lengthPrefix?`. -/
def lengthPrefix (n : Nat) : Bytes := Bytes.ofInt 4 n

/-- The prefix for `n` parts of `what`. -/
def lengthPrefix? (what : String) (n : Nat) : Except Oversize Bytes :=
  if n ≤ maxLength then .ok (lengthPrefix n) else .error ⟨what, n⟩

def tagBytes : Option Nat → Bytes
  | none => []
  | some tag => Bytes.ofNat 4 tag

namespace Value

mutual
def encode : Value → Bytes
  | .int t n => Bytes.ofInt t.width n
  | .float t bits => Bytes.ofNat t.width bits
  | .bool b => [if b then 1 else 0]
  | .text s => lengthPrefix (Bytes.ofText s).length ++ Bytes.ofText s
  | .bytes b => lengthPrefix b.length ++ b
  | .instant t => Bytes.ofInt 8 t.fold.seconds ++ Bytes.ofNat 4 t.fold.nanos
  | .absent => [0]
  | .present v => 1 :: encode v
  | .list vs => lengthPrefix vs.length ++ encodeAll vs
  | .map entries => lengthPrefix entries.length ++ encodeEntries entries
  | .record tag fields => tagBytes tag ++ encodeAll fields
  | .variant number => Bytes.ofInt 4 number
def encodeAll : List Value → Bytes
  | [] => []
  | v :: vs => encode v ++ encodeAll vs
def encodeEntries : List (Value × Value) → Bytes
  | [] => []
  | (k, v) :: rest => encode k ++ (encode v ++ encodeEntries rest)
end

def tooLong? (what : String) (n : Nat) : Option Oversize :=
  if n ≤ maxLength then none else some ⟨what, n⟩

mutual
/-- The first length, in the order of writing, that no prefix can hold. -/
def oversize? : Value → Option Oversize
  | .text s => tooLong? "string" (Bytes.ofText s).length
  | .bytes b => tooLong? "byte array" b.length
  | .present v => oversize? v
  | .list vs => (tooLong? "sequence" vs.length).or (anyOversize? vs)
  | .map entries => (tooLong? "map" entries.length).or (anyEntryOversize? entries)
  | .record _ fields => anyOversize? fields
  | _ => none
def anyOversize? : List Value → Option Oversize
  | [] => none
  | v :: vs => (oversize? v).or (anyOversize? vs)
def anyEntryOversize? : List (Value × Value) → Option Oversize
  | [] => none
  | (k, v) :: rest => (oversize? k).or ((oversize? v).or (anyEntryOversize? rest))
end

/-- The encoding inside another value or behind other values. -/
def write (v : Value) : Except Oversize Bytes :=
  match v.oversize? with
  | some e => .error e
  | none => .ok v.encode

/-- The encoding as a whole buffer: a text by itself has no length prefix. -/
def lower : Value → Except Oversize Bytes
  | .text s => .ok (Bytes.ofText s)
  | v => v.write

end Value
end Boundary
