import Boundary.Json.Form
import Boundary.Proofs.Instant.Text
import Boundary.Proofs.Wire.Holds
import Boundary.Proofs.Wire.RoundTrip

/-!
A value is read back from its JSON form.

Where an absent value is null, what is present must not be; where a member is left out, what is
missing must be read as absent; and no two fields share a key. A leap second has a text of its own
only at the end of a minute.
-/
namespace Boundary
namespace Value

/-- Each instant in the value is told by its text. -/
def Regular (v : Value) : Prop := ∀ t, Part (.instant t) v → t.Regular

theorem Regular.child {v w : Value} (regular : v.Regular) (child : w ∈ v.children) : w.Regular :=
  fun t part => regular t (.inside child part)

theorem regular_iff {v : Value} :
    v.Regular ↔ (∀ t, v = .instant t → t.Regular) ∧ ∀ w ∈ v.children, w.Regular := by
  constructor
  · intro regular
    refine ⟨?_, fun w child => regular.child child⟩
    rintro t rfl
    exact regular t .self
  · intro ⟨own, children⟩ t part
    cases part with
    | self => exact own t rfl
    | inside child inner => exact children _ child t inner

theorem regular_cases (v : Value) : v.Regular ↔
    match v with
    | .instant t => t.Regular
    | .present v => v.Regular
    | .list vs => ∀ v ∈ vs, v.Regular
    | .map entries => ∀ e ∈ entries, e.1.Regular ∧ e.2.Regular
    | .record _ fields => ∀ v ∈ fields, v.Regular
    | _ => True := by
  rw [regular_iff]
  cases v with
  | map entries =>
    simp only [children, reduceCtorEq, false_implies, implies_true, true_and,
      List.forall_mem_flatMap, List.forall_mem_cons, List.not_mem_nil, and_true]
  | _ => simp [children]

end Value

namespace Shape

def isOption : Shape → Bool
  | .option _ => true
  | _ => false

def isText : Shape → Bool
  | .text => true
  | _ => false

mutual
/-- All parts of the shape have a JSON form, and none hides another. -/
def legible : Shape → Bool
  | .bool | .text | .instant => true
  | .option s => !s.isOption && s.legible
  | .list s => s.legible
  | .map k v => k.isText && v.legible
  | .record head fields => (head.members.map (·.key)).Nodup && fieldsLegible head.members fields
  | .enum head => (head.variants.map (·.key)).Nodup && (head.variants.map (·.number)).Nodup
  | .int _ | .float _ | .bytes | .again _ => false
def fieldsLegible : List Member → List Shape → Bool
  | m :: ms, s :: ss => (!m.skipAbsent || s.isOption) && s.legible && fieldsLegible ms ss
  | [], [] => true
  | _, _ => false
end

/-- A value of the shape, with a text for each of its instants. -/
structure HoldsRegular (enclosing : List Shape) (s : Shape) (v : Value) : Prop where
  holds : Holds enclosing s v
  regular : v.Regular

namespace HoldsRegular
variable {enclosing : List Shape} {s : Shape} {v : Value}

theorem bool (b : Bool) : HoldsRegular enclosing .bool (.bool b) :=
  ⟨.bool b, (Value.regular_cases _).2 trivial⟩

theorem text (t : String) : HoldsRegular enclosing .text (.text t) :=
  ⟨.text t, (Value.regular_cases _).2 trivial⟩

theorem instant {t : Instant} (regular : t.Regular) :
    HoldsRegular enclosing .instant (.instant t) :=
  ⟨.instant regular.1, (Value.regular_cases _).2 regular⟩

theorem absent : HoldsRegular enclosing (.option s) .absent :=
  ⟨.absent, (Value.regular_cases _).2 trivial⟩

theorem present (inner : HoldsRegular enclosing s v) :
    HoldsRegular enclosing (.option s) (.present v) :=
  ⟨.present inner.holds, (Value.regular_cases _).2 inner.regular⟩

theorem list {vs : List Value} (items : ∀ v ∈ vs, HoldsRegular enclosing s v) :
    HoldsRegular enclosing (.list s) (.list vs) :=
  ⟨.list fun v mem => (items v mem).holds,
    (Value.regular_cases _).2 fun v mem => (items v mem).regular⟩

theorem map {k : Shape} {entries : List (Value × Value)} (distinct : (entries.map (·.1)).Nodup)
    (keys : ∀ e ∈ entries, HoldsRegular enclosing k e.1)
    (values : ∀ e ∈ entries, HoldsRegular enclosing s e.2) :
    HoldsRegular enclosing (.map k s) (.map entries) :=
  ⟨.map distinct (fun e mem => (keys e mem).holds) fun e mem => (values e mem).holds,
    (Value.regular_cases _).2 fun e mem => ⟨(keys e mem).regular, (values e mem).regular⟩⟩

theorem record {head : RecordHead} {fields : List Shape} {vs : List Value}
    (tagged : ∀ tag ∈ head.tag, tag < Bytes.span 4) (size : fields.length = vs.length)
    (parts : ∀ p ∈ fields.zip vs, HoldsRegular (.record head fields :: enclosing) p.1 p.2) :
    HoldsRegular enclosing (.record head fields) (.record head.tag vs) := by
  refine ⟨.record tagged size fun p mem => (parts p mem).holds, (Value.regular_cases _).2 ?_⟩
  intro v mem
  rw [← List.map_snd_zip (Nat.le_of_eq size.symm)] at mem
  obtain ⟨p, paired, rfl⟩ := List.mem_map.1 mem
  exact (parts p paired).regular

theorem variant {head : EnumHead} {w : Variant} (member : w ∈ head.variants)
    (holds : IntType.i32.Holds w.number) :
    HoldsRegular enclosing (.enum head) (.variant w.number) :=
  ⟨.variant member holds, (Value.regular_cases _).2 trivial⟩

end HoldsRegular

theorem eq_text_of_isText {s : Shape} (text : s.isText = true) : s = .text := by
  cases s with
  | text => rfl
  | _ => cases text

theorem exists_text_of_holds {enclosing : List Shape} {v : Value}
    (holds : Holds enclosing .text v) : ∃ t, v = .text t := by
  cases holds with
  | text t => exact ⟨t, rfl⟩

theorem exists_of_isOption {s : Shape} (option : s.isOption = true) : ∃ t, s = .option t := by
  cases s with
  | option t => exact ⟨t, rfl⟩
  | _ => cases option

variable {enclosing : List Shape} {s : Shape} {v : Value}

theorem toJson_ne_null (present : s.isOption = false) (legible : s.legible = true)
    (holds : Holds enclosing s v) : s.toJson v ≠ .null := by
  cases holds with
  | @variant _ head w member holds =>
    rw [Shape.legible, Bool.and_eq_true, decide_eq_true_eq, decide_eq_true_eq] at legible
    rw [toJson, find?_number legible.2 member]
    nofun
  | absent => cases present
  | present inner => cases present
  | again found holds => cases legible
  | int holds => cases legible
  | float fits => cases legible
  | bytes b => cases legible
  | _ => simp [toJson]

theorem ofJson?_option {j : Json} (some : j ≠ .null) :
    ofJson? (.option s) j = (ofJson? s j).map .present := by
  cases j with
  | null => exact absurd rfl some
  | _ => rw [ofJson?]; nofun

/-- What a field of a record adds to its object. -/
def ownMembers (m : Member) (s : Shape) (v : Value) : List (String × Json) :=
  if m.skipAbsent && v = .absent then [] else [(m.key, toJson s v)]

theorem membersToJson_cons (m : Member) (ms : List Member) (s : Shape) (ss : List Shape)
    (v : Value) (vs : List Value) : membersToJson (m :: ms) (s :: ss) (v :: vs) =
      ownMembers m s v ++ membersToJson ms ss vs := by
  rw [membersToJson, ownMembers]
  split <;> rfl

theorem key_of_mem_ownMembers {m : Member} {e : String × Json} (mem : e ∈ ownMembers m s v) :
    e.1 = m.key := by
  unfold ownMembers at mem
  split at mem
  · cases mem
  · rw [List.mem_singleton.1 mem]

theorem key_mem_of_mem_membersToJson {ms : List Member} {ss : List Shape} {vs : List Value}
    {e : String × Json} (mem : e ∈ membersToJson ms ss vs) : e.1 ∈ ms.map (·.key) := by
  induction ms generalizing ss vs with
  | nil => simp [membersToJson] at mem
  | cons m ms ih =>
    cases ss with
    | nil => simp [membersToJson] at mem
    | cons s ss =>
      cases vs with
      | nil => simp [membersToJson] at mem
      | cons v vs =>
        rw [membersToJson_cons, List.mem_append] at mem
        rcases mem with own | later
        · rw [key_of_mem_ownMembers own]
          exact List.mem_cons_self
        · exact List.mem_cons_of_mem _ (ih later)

/-- Of all members only the field's own have its key. -/
theorem filter_key {m : Member} {before after : List (String × Json)}
    (fresh : ∀ e ∈ before, e.1 ≠ m.key) (later : ∀ e ∈ after, e.1 ≠ m.key) :
    (before ++ (ownMembers m s v ++ after)).filter (·.1 = m.key) = ownMembers m s v := by
  have none_before : before.filter (·.1 = m.key) = [] :=
    List.filter_eq_nil_iff.2 fun e mem => by simpa using fresh e mem
  have none_after : after.filter (·.1 = m.key) = [] :=
    List.filter_eq_nil_iff.2 fun e mem => by simpa using later e mem
  have own : (ownMembers m s v).filter (·.1 = m.key) = ownMembers m s v :=
    List.filter_eq_self.2 fun e mem => by simpa using key_of_mem_ownMembers mem
  simp only [List.filter_append, none_before, none_after, own, List.nil_append, List.append_nil]

/-- What a missing member stands for is what it was left out for. -/
theorem ofMissing?_of_skipped {m : Member} (skips : (!m.skipAbsent || s.isOption) = true)
    (skipped : (m.skipAbsent && v = .absent) = true) : s.ofMissing? = some v := by
  rw [Bool.and_eq_true, decide_eq_true_eq] at skipped
  rw [skipped.1, Bool.not_true, Bool.false_or] at skips
  obtain ⟨t, rfl⟩ := exists_of_isOption skips
  rw [skipped.2]
  rfl

theorem fieldsOfMembers?_cons {m : Member} {ms : List Member} {ss : List Shape}
    {members : List (String × Json)} {vs : List Value}
    (skips : (!m.skipAbsent || s.isOption) = true)
    (own : members.filter (·.1 = m.key) = ownMembers m s v)
    (read : s.ofJson? (s.toJson v) = some v)
    (others : fieldsOfMembers? ms ss members = some vs) :
    fieldsOfMembers? (m :: ms) (s :: ss) members = some (v :: vs) := by
  rw [fieldsOfMembers?, own, others]
  cases skipped : m.skipAbsent && decide (v = .absent) with
  | true =>
    rw [ownMembers, if_pos skipped]
    simp only [ofMissing?_of_skipped skips skipped]
    rfl
  | false =>
    rw [ownMembers, if_neg (Bool.eq_false_iff.1 skipped)]
    simp only [read]
    rfl

def entryOfJson? (k s : Shape) (e : String × Json) : Option (Value × Value) := do
  return (← ofJson? k (.string e.1), ← ofJson? s e.2)

theorem ofJson?_map (k s : Shape) (members : List (String × Json)) :
    ofJson? (.map k s) (.object members) =
      (members.mapM (entryOfJson? k s)).map Value.ofPairs := by
  rw [ofJson?]
  change Option.bind (members.mapM (entryOfJson? k s)) _ = _
  cases members.mapM (entryOfJson? k s) <;> rfl

theorem entryOfJson?_toJson {e : Value × Value} (key : Holds enclosing .text e.1)
    (read : s.ofJson? (s.toJson e.2) = some e.2) :
    entryOfJson? .text s (keyText (toJson .text e.1), toJson s e.2) = some e := by
  obtain ⟨t, text⟩ := exists_text_of_holds key
  simp only [entryOfJson?, read, text, toJson, keyText, ofJson?]
  exact congrArg (fun k => some (k, e.2)) text.symm

mutual
theorem ofJson?_toJson (s : Shape) {enclosing : List Shape} {v : Value}
    (legible : s.legible = true) (holds : Holds enclosing s v) (regular : v.Regular) :
    s.ofJson? (s.toJson v) = some v := by
  have parts := (Value.regular_cases v).1 regular
  cases s with
  | bool => cases holds with | bool b => rfl
  | text => cases holds with | text t => rfl
  | instant =>
    cases holds with
    | instant => rw [toJson, ofJson?, Instant.ofText?_toText parts, Option.map_some]
  | option s =>
    rw [Shape.legible, Bool.and_eq_true, Bool.not_eq_true'] at legible
    cases holds with
    | absent => rfl
    | present inner =>
      rw [toJson, ofJson?_option (toJson_ne_null legible.1 legible.2 inner),
        ofJson?_toJson s legible.2 inner parts, Option.map_some]
  | list s =>
    rw [Shape.legible] at legible
    cases holds with
    | list items =>
      have each := mapM_map_of_inverse fun v mem =>
        ofJson?_toJson s legible (items v mem) (parts v mem)
      rw [toJson, ofJson?, each, Option.map_some]
  | map k s =>
    rw [Shape.legible, Bool.and_eq_true] at legible
    cases eq_text_of_isText legible.1
    cases holds with
    | @map _ _ _ entries distinct keys values =>
      have each := mapM_map_of_inverse fun e mem =>
        entryOfJson?_toJson (keys e mem)
          (ofJson?_toJson s legible.2 (values e mem) (parts e mem).2)
      rw [toJson, ofJson?_map, each, Option.map_some, Value.ofPairs_of_nodup distinct]
  | record head fields =>
    rw [Shape.legible, Bool.and_eq_true, decide_eq_true_eq] at legible
    cases holds with
    | record tagged size holds =>
      have read :=
        fieldsOfMembers?_membersToJson fields [] legible.1 legible.2 size holds parts nofun
      rw [List.nil_append] at read
      rw [toJson, ofJson?, read]
      rfl
  | enum head =>
    rw [Shape.legible, Bool.and_eq_true, decide_eq_true_eq, decide_eq_true_eq] at legible
    cases holds with
    | variant member holds =>
      rw [toJson, find?_number legible.2 member, ofJson?]
      simp only [variantOfJson?, find?_key legible.1 member, Option.map_some]
  | int t => cases legible
  | float t => cases legible
  | bytes => cases legible
  | again distance => cases legible
theorem fieldsOfMembers?_membersToJson (fields : List Shape) {enclosing : List Shape}
    {ms : List Member} {vs : List Value} (before : List (String × Json))
    (distinct : (ms.map (·.key)).Nodup) (legible : fieldsLegible ms fields = true)
    (size : fields.length = vs.length) (holds : ∀ p ∈ fields.zip vs, Holds enclosing p.1 p.2)
    (regular : ∀ v ∈ vs, v.Regular)
    (fresh : ∀ e ∈ before, e.1 ∉ ms.map (·.key)) :
    fieldsOfMembers? ms fields (before ++ membersToJson ms fields vs) = some vs := by
  cases fields with
  | nil =>
    cases vs with
    | nil => cases ms <;> rfl
    | cons v vs => cases size
  | cons s fields =>
    cases vs with
    | nil => cases size
    | cons v vs =>
      cases ms with
      | nil => cases legible
      | cons m ms =>
        rw [fieldsLegible, Bool.and_eq_true, Bool.and_eq_true] at legible
        obtain ⟨⟨skips, first⟩, others⟩ := legible
        obtain ⟨alone, distinct⟩ : m.key ∉ ms.map (·.key) ∧ (ms.map (·.key)).Nodup :=
          List.nodup_cons.1 distinct
        have later : ∀ e ∈ membersToJson ms fields vs, e.1 ≠ m.key := by
          intro e mem same
          exact alone (same ▸ key_mem_of_mem_membersToJson mem)
        have sooner : ∀ e ∈ before, e.1 ≠ m.key := by
          intro e mem same
          exact fresh e mem (same ▸ List.mem_cons_self)
        have read := ofJson?_toJson s first (holds (s, v) List.mem_cons_self)
          (regular v List.mem_cons_self)
        have passed : ∀ e ∈ before ++ ownMembers m s v, e.1 ∉ ms.map (·.key) := by
          intro e mem
          rcases List.mem_append.1 mem with old | own
          · exact fun key => fresh e old (List.mem_cons_of_mem _ key)
          · rw [key_of_mem_ownMembers own]
            exact alone
        have rest := fieldsOfMembers?_membersToJson fields (before ++ ownMembers m s v) distinct
          others (Nat.succ.inj size) (fun p mem => holds p (List.mem_cons_of_mem _ mem))
          (fun v mem => regular v (List.mem_cons_of_mem _ mem)) passed
        rw [List.append_assoc] at rest
        rw [membersToJson_cons]
        exact fieldsOfMembers?_cons skips (filter_key sooner later) read rest
end

end Shape
end Boundary
