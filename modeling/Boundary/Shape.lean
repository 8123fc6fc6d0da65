/-!
The shapes that values crossing the boundary can have.

A record lists the shapes of its fields in wire order. A record that contains itself refers back
with `again n`, the record that encloses it at distance `n`; such a reference stands below a list
or a map, since a value is finite.
-/
namespace Boundary

/-- The fixed-width integers. -/
inductive IntType where
  | u8 | i8 | u16 | i16 | u32 | i32 | u64 | i64
  deriving DecidableEq, Repr, Inhabited

namespace IntType

def width : IntType → Nat
  | .u8 | .i8 => 1
  | .u16 | .i16 => 2
  | .u32 | .i32 => 4
  | .u64 | .i64 => 8

def signed : IntType → Bool
  | .i8 | .i16 | .i32 | .i64 => true
  | .u8 | .u16 | .u32 | .u64 => false

def name : IntType → String
  | .u8 => "u8" | .i8 => "i8" | .u16 => "u16" | .i16 => "i16"
  | .u32 => "u32" | .i32 => "i32" | .u64 => "u64" | .i64 => "i64"

/-- The smallest number of the type. -/
def least (t : IntType) : Int := if t.signed then -(Nat.pow 2 (8 * t.width - 1) : Int) else 0
/-- One more than the largest number of the type. -/
def bound (t : IntType) : Int :=
  if t.signed then Nat.pow 2 (8 * t.width - 1) else Nat.pow 2 (8 * t.width)

def Holds (t : IntType) (n : Int) : Prop := t.least ≤ n ∧ n < t.bound

instance (t : IntType) (n : Int) : Decidable (t.Holds n) := inferInstanceAs (Decidable (_ ∧ _))

end IntType

/-- The binary floating-point formats. Values are their bit patterns. -/
inductive FloatType where
  | f32 | f64
  deriving DecidableEq, Repr, Inhabited

namespace FloatType

def width : FloatType → Nat
  | .f32 => 4
  | .f64 => 8

def name : FloatType → String
  | .f32 => "f32"
  | .f64 => "f64"

end FloatType

/-- A field as it is spelled: its name, its member key in a JSON object, and whether the member
is left out while the field is absent. -/
structure Member where
  name : String
  key : String
  skipAbsent : Bool
  deriving DecidableEq, Repr, Inhabited

namespace Member

/-- A member with the name of its field. -/
def plain (name : String) : Member := ⟨name, name, false⟩
def keyed (name key : String) : Member := ⟨name, key, false⟩
/-- A member that is left out while it is absent. -/
def optional (name : String) : Member := ⟨name, name, true⟩

end Member

/-- What a record is called, the discriminant written before its fields if it is the only
variant of a union, and how its fields are spelled. -/
structure RecordHead where
  name : String
  path : String
  tag : Option Nat
  members : List Member
  deriving DecidableEq, Repr, Inhabited

/-- A variant of an enumeration: its name, its JSON text and its discriminant. -/
structure Variant where
  name : String
  key : String
  number : Int
  deriving DecidableEq, Repr, Inhabited

structure EnumHead where
  name : String
  path : String
  variants : List Variant
  deriving DecidableEq, Repr, Inhabited

inductive Shape where
  | int (t : IntType)
  | float (t : FloatType)
  | bool
  | text
  | bytes
  | instant
  | option (s : Shape)
  | list (s : Shape)
  | map (key value : Shape)
  | record (head : RecordHead) (fields : List Shape)
  | enum (head : EnumHead)
  | again (distance : Nat)
  deriving Repr, Inhabited

namespace Shape

/-- Every reference back leads to an enclosing record and stands below a list or a map inside
it. The nearest `opened` of the enclosing records have none around the reference yet. -/
def WellFormed (opened enclosing : Nat) : Shape → Prop
  | .int _ | .float _ | .bool | .text | .bytes | .instant | .enum _ => True
  | .option s => s.WellFormed opened enclosing
  | .list s => s.WellFormed 0 enclosing
  | .map k v => k.WellFormed 0 enclosing ∧ v.WellFormed 0 enclosing
  | .record _ fields => fieldsWellFormed (opened + 1) (enclosing + 1) fields
  | .again distance => opened ≤ distance ∧ distance < enclosing
where
  fieldsWellFormed (opened enclosing : Nat) : List Shape → Prop
    | [] => True
    | s :: rest => s.WellFormed opened enclosing ∧ fieldsWellFormed opened enclosing rest

/-- The full name of a shape in fault texts. A reference back stands inside a record, which is
named without its fields. -/
def fullName : Shape → String
  | .int t => t.name
  | .float t => t.name
  | .bool => "bool"
  | .text => "alloc::string::String"
  | .bytes => "web5_wire::primitives::ByteArray"
  | .instant => "chrono::datetime::DateTime<chrono::offset::utc::Utc>"
  | .option s => "core::option::Option<" ++ s.fullName ++ ">"
  | .list s => "alloc::vec::Vec<" ++ s.fullName ++ ">"
  | .map k v =>
    "std::collections::hash::map::HashMap<" ++ k.fullName ++ ", " ++ v.fullName ++ ">"
  | .record head _ => head.path ++ "::" ++ head.name
  | .enum head => head.path ++ "::" ++ head.name
  | .again _ => ""

end Shape
end Boundary
