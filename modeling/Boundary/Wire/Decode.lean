import Boundary.Value
import Boundary.Wire.Error
/-!
Reading values back.

A reader takes bytes from the front of its input. Where it fails, the input stays as the failed
step left it: what was taken before is gone, and a word that is not complete is not touched.
-/
namespace Boundary

abbrev Reader (α : Type) := EStateM CodecError Bytes α

namespace Reader

/-- The next `n` bytes. -/
def take (n : Nat) : Reader Bytes := fun input =>
  let (front, rest) := input.splitAt n
  if front.length = n then .ok front rest else .error (.truncated n input.length) input

def byte : Reader UInt8 := return (← take 1).headD 0

def unsigned (width : Nat) : Reader Nat := return Bytes.toNat (← take width)

def int (t : IntType) : Reader Int := do
  let b ← take t.width
  return if t.signed then Bytes.toInt b else Bytes.toNat b

/-- A length or count prefix. -/
def length : Reader Nat := do
  let n ← int .i32
  if n < 0 then throw (.negativeLength n) else return n.toNat

def bool : Reader Bool := do
  match (← byte).toNat with
  | 0 => return false
  | 1 => return true
  | other => throw (.invalidBool other)

def text : Reader String := do
  match Bytes.toText? (← take (← length)) with
  | some s => return s
  | none => throw .invalidUtf8

def instant : Reader Instant := do
  let seconds ← int .i64
  let nanos ← unsigned 4
  match Instant.after? seconds nanos with
  | some t => return t
  | none => throw (.invalidTimestamp seconds nanos)

/-- The discriminant in front of a record that is the only variant of a union. -/
def tag (head : RecordHead) : Reader Unit := do
  match head.tag with
  | none => return ()
  | some expected =>
    let found ← unsigned 4
    if found = expected then return () else throw (.unknownDiscriminant head.name found)

def variant (head : EnumHead) : Reader Int := do
  let number ← int .i32
  if head.variants.any (·.number = number) then return number
  else throw (.unknownDiscriminant head.name number)

/-- `n` values one after the other. -/
def times (r : Reader α) : Nat → Reader (List α)
  | 0 => return []
  | n + 1 => return (← r) :: (← times r n)

/-- Fails on every input, as on one that ends too early. -/
def stuck : Reader α := fun input => .error (.truncated (input.length + 1) input.length) input

/-- `body` inside itself `depth` times. -/
def unroll (body : Reader α → Reader α) : (depth : Nat) → Reader α
  | 0 => stuck
  | depth + 1 => body (unroll body depth)

/-- The reader that `body` defines in terms of itself. Each reference back comes after at least
one byte, so that one level for each byte of the input is enough. -/
def fix (body : Reader α → Reader α) : Reader α := fun input =>
  unroll body (input.length + 1) input

end Reader

namespace Shape

mutual
/-- The reader of a shape; `enclosing` holds those of the records around it, the nearest first. -/
def reader (enclosing : List (Reader Value)) : Shape → Reader Value
  | .int t => return .int t (← Reader.int t)
  | .float t => return .float t (← Reader.unsigned t.width)
  | .bool => return .bool (← Reader.bool)
  | .text => return .text (← Reader.text)
  | .bytes => return .bytes (← Reader.take (← Reader.length))
  | .instant => return .instant (← Reader.instant)
  | .option s => do
    match (← Reader.byte).toNat with
    | 0 => return .absent
    | 1 => return .present (← reader enclosing s)
    | other => throw (.invalidOptionFlag other)
  | .list s => return .list (← (reader enclosing s).times (← Reader.length))
  | .map k v => do
    let count ← Reader.length
    let entry : Reader (Value × Value) := return (← reader enclosing k, ← reader enclosing v)
    return Value.ofPairs (← entry.times count)
  | .record head fields => Reader.fix fun this => do
    Reader.tag head
    return .record head.tag (← fieldsReader (this :: enclosing) fields)
  | .enum head => return .variant (← Reader.variant head)
  | .again distance => enclosing.getD distance Reader.stuck
def fieldsReader (enclosing : List (Reader Value)) : List Shape → Reader (List Value)
  | [] => return []
  | s :: rest => return (← reader enclosing s) :: (← fieldsReader enclosing rest)
end

/-- Reads a value of the shape from the front of the input. -/
def read (s : Shape) : Reader Value := s.reader []

/-- The value that a whole buffer encodes. A text by itself has no length prefix. -/
def lift (s : Shape) (b : Bytes) : Except CodecError Value :=
  match s with
  | .text =>
    match Bytes.toText? b with
    | some t => .ok (.text t)
    | none => .error .invalidUtf8
  | s =>
    match s.read b with
    | .ok v [] => .ok v
    | .ok _ rest => .error (.trailingBytes rest.length)
    | .error e _ => .error e

end Shape
end Boundary
