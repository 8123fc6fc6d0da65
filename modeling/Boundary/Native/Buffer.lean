import Boundary.Fault
import Boundary.Wire.Room
/-!
Buffers: bytes in memory of the native core. The null buffer stands for no bytes and owns no
memory; a buffer may be empty without being null. How long a buffer is, and how much room it takes,
fit into unsigned words; what is lent for a call has a signed length.
-/
namespace Boundary

/-- The greatest length of a buffer, and the most room that it can take. -/
def maxRegion : Nat := 4294967295

inductive Buffer where
  | null
  | region (content : Bytes) (fits : content.length ≤ maxRegion := by decide)
  deriving DecidableEq, Repr, Inhabited

namespace Buffer

def isNull : Buffer → Bool
  | .null => true
  | .region .. => false

def content : Buffer → Bytes
  | .null => []
  | .region b _ => b

def isEmpty (b : Buffer) : Bool := b.content.isEmpty

theorem length_content (b : Buffer) : b.content.length ≤ maxRegion := by
  cases b with
  | null => decide
  | region _ fits => exact fits

/-- The buffer that a vector of these bytes becomes, with all the room that it has set aside. -/
def ofVec (b : Bytes) (room : Nat) : Except Fault Buffer :=
  if fits : b.length ≤ maxRegion ∧ room ≤ maxRegion then .ok (.region b fits.1)
  else .error (.bufferTooLarge room)

/-- The buffer with these bytes and no room for more. -/
def ofBytes (b : Bytes) : Except Fault Buffer := ofVec b b.length

/-- The buffer with the encoding of a value. -/
def encoding [Wire α] (a : α) : Except Fault Buffer :=
  match Wire.lower a with
  | .ok b => ofVec b (Wire.room a)
  | .error e => .error (.oversize e)

/-- The buffer for a text that is left out when there is nothing to say. -/
def ofContent (b : Bytes) : Except Fault Buffer := if b.isEmpty then .ok .null else ofBytes b

/-- A copy of bytes that are lent for a call, which are never too many. -/
def copyOf (b : Bytes) : Buffer := (ofBytes b).toOption.getD .null

theorem ofBytes_of_le {b : Bytes} (fits : b.length ≤ maxRegion) :
    ofBytes b = .ok (.region b fits) := dif_pos ⟨fits, fits⟩

theorem ofBytes_of_lt {b : Bytes} (long : maxRegion < b.length) :
    ofBytes b = .error (.bufferTooLarge b.length) := dif_neg fun both => Nat.not_le.2 long both.1

theorem encoding_of_le [Wire α] {a : α} {b : Bytes} (written : Wire.lower a = .ok b)
    (fits : b.length ≤ maxRegion) (room : Wire.room a ≤ maxRegion) :
    encoding a = .ok (.region b fits) := by
  rw [encoding, written]
  exact dif_pos ⟨fits, room⟩

theorem encoding_of_lt [Wire α] {a : α} {b : Bytes} (written : Wire.lower a = .ok b)
    (large : maxRegion < Wire.room a) :
    encoding a = .error (.bufferTooLarge (Wire.room a)) := by
  rw [encoding, written]
  exact dif_neg fun both => Nat.not_le.2 large both.2

/-- However much room it takes, the encoding of what can be lent finds a buffer. -/
theorem encoding_of_short [Wire α] {a : α} {b : Bytes} (written : Wire.lower a = .ok b)
    (short : b.length ≤ maxLength) :
    encoding a = .ok (.region b (Nat.le_trans short (by decide))) := by
  have room : Wire.room a ≤ max 8 (2 * b.length) := (Value.room_bounds written).2
  refine encoding_of_le written _ (Nat.le_trans room ?_)
  unfold maxLength at short
  unfold maxRegion
  omega

theorem lower_of_encoding [Wire α] {a : α} {made : Buffer} (encoded : encoding a = .ok made) :
    ∃ fits, made = .region made.content fits ∧ Wire.lower a = .ok made.content := by
  unfold encoding ofVec at encoded
  split at encoded
  next written =>
    split at encoded
    next fits =>
      cases encoded
      exact ⟨fits.1, rfl, written⟩
    next => cases encoded
  next => cases encoded

theorem copyOf_of_le {b : Bytes} (fits : b.length ≤ maxRegion) : copyOf b = .region b fits := by
  rw [copyOf, ofBytes_of_le fits]
  rfl

end Buffer

/-- Bytes that are lent for one call: where they start, if anywhere, and a signed length. -/
structure View where
  length : Int
  content : Option Bytes
  deriving DecidableEq, Repr, Inhabited

namespace View

/-- The length of a view on `n` bytes. -/
def length? (n : Nat) : Except Fault Int :=
  if n ≤ maxLength then .ok n else .error (.bufferTooLarge n)

def ofBytes (b : Bytes) : Except Fault View :=
  (length? b.length).map fun n => ⟨n, some b⟩

/-- The bytes that can be read through the view. -/
def bytes (v : View) : Bytes := (v.content.getD []).take v.length.toNat

end View
end Boundary
