import Boundary.Wire.Encode

/-!
The values of a shape, and which of them can be written: a length prefix has room for the number
of parts, and no instant is a leap second.
-/
namespace Boundary
namespace Shape

/- The records around a shape, the nearest first, stand for what refers back to them. A map has no
   key twice, and it is the list of its entries in the order in which it is visited. -/
inductive Holds : List Shape → Shape → Value → Prop where
  | int {enclosing : List Shape} {t : IntType} {n : Int} (holds : t.Holds n) :
      Holds enclosing (.int t) (.int t n)
  | float {enclosing : List Shape} {t : FloatType} {bits : Nat} (fits : bits < Bytes.span t.width) :
      Holds enclosing (.float t) (.float t bits)
  | bool {enclosing : List Shape} (b : Bool) : Holds enclosing .bool (.bool b)
  | text {enclosing : List Shape} (s : String) : Holds enclosing .text (.text s)
  | bytes {enclosing : List Shape} (b : Bytes) : Holds enclosing .bytes (.bytes b)
  | instant {enclosing : List Shape} {t : Instant} (valid : t.Valid) :
      Holds enclosing .instant (.instant t)
  | absent {enclosing : List Shape} {s : Shape} : Holds enclosing (.option s) .absent
  | present {enclosing : List Shape} {s : Shape} {v : Value} (inner : Holds enclosing s v) :
      Holds enclosing (.option s) (.present v)
  | list {enclosing : List Shape} {s : Shape} {vs : List Value}
      (items : ∀ v ∈ vs, Holds enclosing s v) : Holds enclosing (.list s) (.list vs)
  | map {enclosing : List Shape} {k s : Shape} {entries : List (Value × Value)}
      (distinct : (entries.map (·.1)).Nodup) (keys : ∀ e ∈ entries, Holds enclosing k e.1)
      (values : ∀ e ∈ entries, Holds enclosing s e.2) :
      Holds enclosing (.map k s) (.map entries)
  | record {enclosing : List Shape} {head : RecordHead} {fields : List Shape} {vs : List Value}
      (tagged : ∀ tag ∈ head.tag, tag < Bytes.span 4) (size : fields.length = vs.length)
      (parts : ∀ p ∈ fields.zip vs, Holds (.record head fields :: enclosing) p.1 p.2) :
      Holds enclosing (.record head fields) (.record head.tag vs)
  | variant {enclosing : List Shape} {head : EnumHead} {v : Variant}
      (member : v ∈ head.variants) (holds : IntType.i32.Holds v.number) :
      Holds enclosing (.enum head) (.variant v.number)
  | again {enclosing outer : List Shape} {distance : Nat} {s : Shape} {v : Value}
      (found : enclosing.drop distance = s :: outer) (holds : Holds outer s v) :
      Holds enclosing (.again distance) v

end Shape

namespace Value

def children : Value → List Value
  | .present v => [v]
  | .list vs => vs
  | .map entries => entries.flatMap fun e => [e.1, e.2]
  | .record _ fields => fields
  | _ => []

/-- `u` is the value itself or stands somewhere in it. -/
inductive Part (u : Value) : Value → Prop where
  | self : Part u u
  | inside {v w : Value} (child : w ∈ v.children) (inner : Part u w) : Part u v

/-- What the length prefix of a value counts. -/
def counted : Value → Nat
  | .text s => (Bytes.ofText s).length
  | .bytes b => b.length
  | .list vs => vs.length
  | .map entries => entries.length
  | _ => 0

/-- Whether the value can be written so that nothing is lost. -/
structure Portable (v : Value) : Prop where
  counted_le : ∀ u, Part u v → u.counted ≤ maxLength
  no_leap : ∀ t, Part (.instant t) v → ¬ t.IsLeap

theorem key_mem_children {e : Value × Value} {entries : List (Value × Value)}
    (member : e ∈ entries) : e.1 ∈ (Value.map entries).children :=
  List.mem_flatMap.mpr ⟨e, member, by simp⟩

theorem entry_mem_children {e : Value × Value} {entries : List (Value × Value)}
    (member : e ∈ entries) : e.2 ∈ (Value.map entries).children :=
  List.mem_flatMap.mpr ⟨e, member, by simp⟩

theorem Portable.child {v w : Value} (portable : v.Portable) (child : w ∈ v.children) :
    w.Portable :=
  ⟨fun u part => portable.counted_le u (.inside child part),
    fun t part => portable.no_leap t (.inside child part)⟩

theorem Portable.length_le {v : Value} (portable : v.Portable) : v.counted ≤ maxLength :=
  portable.counted_le v .self

theorem portable_iff {v : Value} : v.Portable ↔ v.counted ≤ maxLength ∧
    (∀ t, v = .instant t → ¬ t.IsLeap) ∧ ∀ w ∈ v.children, w.Portable := by
  constructor
  · intro portable
    refine ⟨portable.length_le, ?_, fun w child => portable.child child⟩
    rintro t rfl
    exact portable.no_leap t .self
  · intro ⟨counted, leapless, children⟩
    constructor
    · intro u part
      cases part with
      | self => exact counted
      | inside child inner => exact (children _ child).counted_le u inner
    · intro t part
      cases part with
      | self => exact leapless t rfl
      | inside child inner => exact (children _ child).no_leap t inner

/-- Portability goes by the kind of a value. -/
theorem portable_cases (v : Value) : v.Portable ↔
    match v with
    | .text s => (Bytes.ofText s).length ≤ maxLength
    | .bytes b => b.length ≤ maxLength
    | .instant t => ¬ t.IsLeap
    | .present v => v.Portable
    | .list vs => vs.length ≤ maxLength ∧ ∀ v ∈ vs, v.Portable
    | .map entries => entries.length ≤ maxLength ∧ ∀ e ∈ entries, e.1.Portable ∧ e.2.Portable
    | .record _ fields => ∀ v ∈ fields, v.Portable
    | _ => True := by
  rw [portable_iff]
  cases v with
  | map entries =>
    simp only [counted, children, reduceCtorEq, false_implies, implies_true, true_and,
      List.forall_mem_flatMap, List.forall_mem_cons, List.not_mem_nil, and_true]
  | _ => simp [counted, children]

end Value
end Boundary
