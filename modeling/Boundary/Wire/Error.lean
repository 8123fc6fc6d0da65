/-!
Why bytes do not decode, and why a value does not encode.
-/
namespace Boundary

inductive CodecError where
  /-- The bytes ended inside a value. -/
  | truncated (needed remaining : Nat)
  /-- Bytes are left over after a complete value. -/
  | trailingBytes (remaining : Nat)
  | negativeLength (length : Int)
  | invalidBool (byte : Nat)
  | invalidOptionFlag (byte : Nat)
  | invalidUtf8
  | unknownDiscriminant (typeName : String) (value : Int)
  | invalidTimestamp (seconds : Int) (nanos : Nat)
  deriving DecidableEq, Repr, Inhabited

namespace CodecError

def message : CodecError → String
  | .truncated needed remaining =>
    s!"truncated buffer: needed {needed} bytes, {remaining} remaining"
  | .trailingBytes remaining => s!"{remaining} trailing bytes remain after lifting value"
  | .negativeLength length => s!"negative length prefix: {length}"
  | .invalidBool byte => s!"invalid boolean byte: {byte}"
  | .invalidOptionFlag byte => s!"invalid optional presence flag: {byte}"
  | .invalidUtf8 => "string is not valid UTF-8"
  | .unknownDiscriminant typeName value => s!"unknown discriminant {value} for {typeName}"
  | .invalidTimestamp seconds nanos => s!"timestamp out of range: {seconds}s {nanos}ns"

/-- The two sides disagree on the shape, rather than that bytes are missing or wrong. -/
def schemaSkew : CodecError → Bool
  | .trailingBytes _ | .unknownDiscriminant .. => true
  | _ => false

end CodecError

/-- Something has more parts than a length prefix can count. -/
structure Oversize where
  what : String
  length : Nat
  deriving DecidableEq, Repr, Inhabited

def Oversize.message (e : Oversize) : String :=
  s!"{e.what} of length {e.length} is too large to fit into i32"

end Boundary
