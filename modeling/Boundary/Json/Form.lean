import Boundary.Instant.Text
import Boundary.Json.Syntax
import Boundary.Wire.Typed
/-!
The JSON form of values.

A record is an object with a member for each field, or an array of all its fields in order. An
absent optional field is null; it may be missing, and some members are then left out. Members that
belong to no field are passed over, but one that belongs to a field is there only once. A map is
an object in which the last member with a key counts, a variant of an enumeration is its text, and
an instant is a text. Numbers, bytes and references back have no form, since no payload has them.
-/
namespace Boundary
namespace Shape

/-- What a missing member stands for. -/
def ofMissing? : Shape → Option Value
  | .option _ => some .absent
  | _ => none

/-- A variant is given by its text, or as the only member of an object, with nothing in it. -/
def variantOfJson? (head : EnumHead) : Json → Option Value
  | .string key | .object [(key, .null)] =>
    (head.variants.find? (·.key = key)).map fun v => .variant v.number
  | _ => none

mutual
def ofJson? : Shape → Json → Option Value
  | .bool, .bool b => some (.bool b)
  | .text, .string s => some (.text s)
  | .instant, .string s => (Instant.ofText? s).map .instant
  | .option _, .null => some .absent
  | .option s, j => (ofJson? s j).map .present
  | .list s, .array items => (items.mapM (ofJson? s)).map .list
  | .map k v, .object members => do
    return Value.ofPairs (← members.mapM fun (key, j) =>
      return (← ofJson? k (.string key), ← ofJson? v j))
  | .record head fields, .object members => do
    return .record head.tag (← fieldsOfMembers? head.members fields members)
  | .record head fields, .array items => do
    return .record head.tag (← fieldsOfItems? fields items)
  | .enum head, j => variantOfJson? head j
  | _, _ => none
def fieldsOfMembers? : List Member → List Shape → List (String × Json) → Option (List Value)
  | m :: ms, s :: ss, members => do
    let v ← match members.filter (·.1 = m.key) with
      | [] => ofMissing? s
      | [(_, j)] => ofJson? s j
      | _ => none
    return v :: (← fieldsOfMembers? ms ss members)
  | _, [], _ => some []
  | [], _ :: _, _ => none
def fieldsOfItems? : List Shape → List Json → Option (List Value)
  | s :: ss, j :: js => return (← ofJson? s j) :: (← fieldsOfItems? ss js)
  | [], [] => some []
  | _, _ => none
end

def keyText : Json → String
  | .string s => s
  | _ => ""

mutual
def toJson : Shape → Value → Json
  | .bool, .bool b => .bool b
  | .text, .text s => .string s
  | .instant, .instant t => .string t.toText
  | .option s, .present v => toJson s v
  | .list s, .list vs => .array (vs.map (toJson s))
  | .map k v, .map entries =>
    .object (entries.map fun e => (keyText (toJson k e.1), toJson v e.2))
  | .record head fields, .record _ vs => .object (membersToJson head.members fields vs)
  | .enum head, .variant n =>
    match head.variants.find? (·.number = n) with
    | some v => .string v.key
    | none => .null
  | _, _ => .null
def membersToJson : List Member → List Shape → List Value → List (String × Json)
  | m :: ms, s :: ss, v :: vs =>
    if m.skipAbsent && v = .absent then membersToJson ms ss vs
    else (m.key, toJson s v) :: membersToJson ms ss vs
  | _, _, _ => []
end

end Shape

namespace Wire

def toJson [Wire α] (a : α) : Json := (shape α).toJson (toValue a)

def ofJson? (α : Type) [Wire α] (j : Json) : Option α := ((shape α).ofJson? j).map ofValue

end Wire
end Boundary
