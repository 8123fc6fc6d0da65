import Boundary.Proofs.Wire.Canonical

/-!
How many bytes a value takes. A reader never puts bytes back, and it takes at least as many as the
least encoding of its shape has. Only records that are made of nothing but empty records have an
encoding without bytes.
-/
namespace Boundary
namespace Reader
variable {α β : Type} {m n : Nat} {r : Reader α}

/-- Wherever `r` gives a value, it has taken at least `least` bytes from the front. -/
def Spends (least : Nat) (r : Reader α) : Prop :=
  ∀ b a rest, r b = .ok a rest → ∃ used, b = used ++ rest ∧ least ≤ used.length

theorem Spends.length_le (spends : Spends n r) {b rest : Bytes} {a : α} (read : r b = .ok a rest) :
    rest.length + n ≤ b.length := by
  obtain ⟨used, rfl, least⟩ := spends b a rest read
  rw [List.length_append]
  omega

theorem Spends.mono (spends : Spends n r) (le : m ≤ n) : Spends m r := by
  intro b a rest read
  obtain ⟨used, split, least⟩ := spends b a rest read
  exact ⟨used, split, Nat.le_trans le least⟩

theorem spends_pure (a : α) : Spends 0 (pure a) := by
  intro b c rest read
  cases read
  exact ⟨[], rfl, Nat.le_refl 0⟩

theorem spends_throw (n : Nat) (e : CodecError) : Spends n (throw e : Reader α) := by
  intro b a rest read
  cases read

theorem spends_stuck (n : Nat) : Spends n (stuck : Reader α) := by
  intro b a rest read
  cases read

theorem Spends.bind {next : α → Reader β} (first : Spends m r) (second : ∀ a, Spends n (next a)) :
    Spends (m + n) (r >>= next) := by
  intro b c rest read
  obtain ⟨a, left, start, finish⟩ := exists_of_bind_ok read
  obtain ⟨front, rfl, least⟩ := first b a left start
  obtain ⟨back, rfl, more⟩ := second a left c rest finish
  refine ⟨front ++ back, (List.append_assoc ..).symm, ?_⟩
  rw [List.length_append]
  omega

theorem Spends.map (spends : Spends n r) (g : α → β) : Spends n (do return g (← r)) :=
  spends.bind fun a => spends_pure (g a)

/-- What comes behind may take nothing. -/
theorem Spends.before {next : α → Reader β} (first : Spends n r)
    (second : ∀ a, Spends 0 (next a)) : Spends n (r >>= next) := first.bind second

theorem spends_take (n : Nat) : Spends n (take n) := by
  intro b front rest read
  obtain ⟨split, size⟩ := exact_take n b front rest read
  exact ⟨front, split, Nat.le_of_eq size.symm⟩

theorem spends_byte : Spends 1 byte := (spends_take 1).map _

theorem spends_unsigned (width : Nat) : Spends width (unsigned width) := (spends_take width).map _

theorem spends_int (t : IntType) : Spends t.width (int t) := (spends_take t.width).map _

theorem spends_length : Spends 4 length := by
  refine (spends_int .i32).before fun n => ?_
  split
  · exact spends_throw 0 _
  · exact spends_pure _

theorem spends_bool : Spends 1 bool := by
  refine spends_byte.before fun b => ?_
  split
  · exact spends_pure _
  · exact spends_pure _
  · exact spends_throw 0 _

theorem spends_text : Spends 4 text := by
  refine spends_length.before fun n => ((spends_take n).mono (Nat.zero_le n)).before fun b => ?_
  split
  · exact spends_pure _
  · exact spends_throw 0 _

theorem spends_instant : Spends 12 instant := by
  refine Spends.bind (spends_int .i64) fun seconds => (spends_unsigned 4).before fun nanos => ?_
  split
  · exact spends_pure _
  · exact spends_throw 0 _

theorem spends_tag (head : RecordHead) : Spends (tagBytes head.tag).length (tag head) := by
  unfold tag
  cases head.tag with
  | none => exact spends_pure ()
  | some expected =>
    refine Spends.mono (n := 4) ((spends_unsigned 4).before fun found => ?_) (by simp [tagBytes])
    split
    · exact spends_pure ()
    · exact spends_throw 0 _

theorem spends_variant (head : EnumHead) : Spends 4 (variant head) := by
  refine (spends_int .i32).before fun number => ?_
  split
  · exact spends_pure _
  · exact spends_throw 0 _

theorem Spends.times (spends : Spends n r) (count : Nat) : Spends (count * n) (r.times count) := by
  induction count with
  | zero => exact (spends_pure []).mono (Nat.le_of_eq (Nat.zero_mul n))
  | succ count ih =>
    rw [Nat.succ_mul, Nat.add_comm]
    exact spends.bind fun a => ih.map (a :: ·)

theorem Spends.unroll {body : Reader α → Reader α}
    (step : ∀ r, Spends 0 r → Spends n (body r)) (depth : Nat) : Spends n (unroll body depth) := by
  induction depth with
  | zero => exact spends_stuck n
  | succ depth ih => exact step _ (ih.mono (Nat.zero_le n))

theorem Spends.fix {body : Reader α → Reader α} (step : ∀ r, Spends 0 r → Spends n (body r)) :
    Spends n (fix body) :=
  fun b => Spends.unroll step (b.length + 1) b

end Reader

namespace Shape
open Reader

mutual
/-- How many bytes each encoding has at least; what a reference back adds is left out. -/
def leastSize : Shape → Nat
  | .int t => t.width
  | .float t => t.width
  | .bool | .option _ => 1
  | .text | .bytes | .list _ | .map _ _ | .enum _ => 4
  | .instant => 12
  | .record head fields => (tagBytes head.tag).length + leastSizes fields
  | .again _ => 0
def leastSizes : List Shape → Nat
  | [] => 0
  | s :: rest => s.leastSize + leastSizes rest
end

mutual
/-- A record of nothing but such records: one without fields, to begin with. -/
def Hollow : Shape → Prop
  | .record head fields => head.tag = none ∧ AllHollow fields
  | _ => False
def AllHollow : List Shape → Prop
  | [] => True
  | s :: rest => s.Hollow ∧ AllHollow rest
end

/-- A record as its reader takes it, with `this` for the record itself. -/
def recordBody (enclosing : List (Reader Value)) (head : RecordHead) (fields : List Shape)
    (this : Reader Value) : Reader Value := do
  Reader.tag head
  return .record head.tag (← fieldsReader (this :: enclosing) fields)

theorem spends_around {readers : List (Reader Value)} (each : ∀ r ∈ readers, Spends 0 r) :
    ∀ distance, Spends 0 (readers.getD distance stuck) := by
  intro distance
  rw [List.getD_eq_getElem?_getD]
  cases found : readers[distance]? with
  | none => exact spends_stuck 0
  | some r => exact each r (List.mem_of_getElem? found)

theorem spends_inside {readers : List (Reader Value)} {this : Reader Value}
    (around : ∀ distance, Spends 0 (readers.getD distance stuck)) (inner : Spends 0 this) :
    ∀ distance, Spends 0 ((this :: readers).getD distance stuck) := by
  intro distance
  cases distance with
  | zero => exact inner
  | succ distance => exact around distance

mutual
theorem spends_reader (s : Shape) {readers : List (Reader Value)}
    (around : ∀ distance, Spends 0 (readers.getD distance stuck)) :
    Spends s.leastSize (s.reader readers) := by
  cases s with
  | int t => exact (spends_int t).map _
  | float t => exact (spends_unsigned t.width).map _
  | bool => exact spends_bool.map _
  | text => exact spends_text.map _
  | bytes => exact spends_length.before fun n => ((spends_take n).mono (Nat.zero_le n)).map _
  | instant => exact spends_instant.map _
  | option s =>
    refine spends_byte.before fun b => ?_
    split
    · exact spends_pure _
    · exact ((spends_reader s around).mono (Nat.zero_le _)).map _
    · exact spends_throw 0 _
  | list s =>
    refine spends_length.before fun n => ?_
    exact (((spends_reader s around).times n).mono (Nat.zero_le _)).map _
  | map k s =>
    have entry : Spends _ (do return (← k.reader readers, ← s.reader readers)) :=
      (spends_reader k around).bind fun key => (spends_reader s around).map (Prod.mk key)
    exact spends_length.before fun n => ((entry.times n).mono (Nat.zero_le _)).map _
  | record head fields =>
    -- A record further in may take nothing: what each level takes itself is enough.
    refine Spends.fix fun this inner => (spends_tag head).bind fun _ => ?_
    exact (spends_fieldsReader fields (spends_inside around inner)).map _
  | enum head => exact (spends_variant head).map _
  | again distance => exact around distance
theorem spends_fieldsReader (shapes : List Shape) {readers : List (Reader Value)}
    (around : ∀ distance, Spends 0 (readers.getD distance stuck)) :
    Spends (leastSizes shapes) (fieldsReader readers shapes) := by
  cases shapes with
  | nil => exact spends_pure []
  | cons s shapes =>
    exact (spends_reader s around).bind fun v => (spends_fieldsReader shapes around).map (v :: ·)
end

theorem spends_recordBody {readers : List (Reader Value)} {this : Reader Value}
    (around : ∀ distance, Spends 0 (readers.getD distance stuck)) (inner : Spends 0 this)
    (head : RecordHead) (fields : List Shape) : Spends 0 (recordBody readers head fields this) := by
  have parts := spends_fieldsReader fields (spends_inside around inner)
  exact Spends.mono ((spends_tag head).bind fun _ => parts.map _) (Nat.zero_le _)

theorem spends_read (s : Shape) : Spends s.leastSize s.read :=
  spends_reader s fun _ => spends_stuck 0

/-! ### Which shapes have values without bytes -/

mutual
theorem leastSize_le (s : Shape) {enclosing : List Shape} {v : Value}
    (holds : Holds enclosing s v) : s.leastSize ≤ v.encode.length := by
  cases s with
  | record head fields =>
    cases holds with
    | record tagged size parts =>
      have each := leastSizes_le fields size parts
      simp only [leastSize, Value.encode, List.length_append]
      omega
  | again distance => exact Nat.zero_le _
  | _ => cases holds <;> simp [leastSize, Value.encode, lengthPrefix]
theorem leastSizes_le (shapes : List Shape) {enclosing : List Shape} {vs : List Value}
    (size : shapes.length = vs.length) (holds : ∀ p ∈ shapes.zip vs, Holds enclosing p.1 p.2) :
    leastSizes shapes ≤ (Value.encodeAll vs).length := by
  cases shapes with
  | nil => exact Nat.zero_le _
  | cons s shapes =>
    cases vs with
    | nil => simp at size
    | cons v vs =>
      have first : s.leastSize ≤ v.encode.length :=
        leastSize_le s (holds (s, v) List.mem_cons_self)
      have others := leastSizes_le shapes (Nat.succ.inj size)
        fun p member => holds p (List.mem_cons_of_mem _ member)
      simp only [leastSizes, Value.encodeAll, List.length_append]
      omega
end

mutual
/-- With no list or map around, nothing can refer back. -/
theorem hollow_of_leastSize (s : Shape) {n : Nat} (formed : s.WellFormed n n)
    (empty : s.leastSize = 0) : s.Hollow := by
  cases s with
  | record head fields =>
    rw [WellFormed] at formed
    simp only [leastSize, Nat.add_eq_zero_iff, List.length_eq_zero_iff] at empty
    refine ⟨?_, allHollow_of_leastSizes fields formed empty.2⟩
    cases tagged : head.tag with
    | none => rfl
    | some tag =>
      have width := congrArg List.length empty.1
      simp [tagged, tagBytes] at width
  | again distance => exact absurd formed.2 (Nat.not_lt.mpr formed.1)
  | int t => cases t <;> cases empty
  | float t => cases t <;> cases empty
  | _ => cases empty
theorem allHollow_of_leastSizes (shapes : List Shape) {n : Nat}
    (formed : WellFormed.fieldsWellFormed n n shapes) (empty : leastSizes shapes = 0) :
    AllHollow shapes := by
  cases shapes with
  | nil => trivial
  | cons s shapes =>
    obtain ⟨first, others⟩ := Nat.add_eq_zero_iff.1 empty
    exact ⟨hollow_of_leastSize s formed.1 first, allHollow_of_leastSizes shapes formed.2 others⟩
end

mutual
theorem exists_empty_of_hollow (s : Shape) {enclosing : List Shape} (hollow : s.Hollow) :
    ∃ v, Holds enclosing s v ∧ v.encode = [] := by
  cases s with
  | record head fields =>
    obtain ⟨untagged, hollow⟩ := hollow
    obtain ⟨vs, size, holds, empty⟩ :=
      exists_empty_of_allHollow fields hollow
    have tagged : ∀ tag ∈ head.tag, tag < Bytes.span 4 := by
      rw [untagged]
      exact nofun
    refine ⟨_, .record tagged size holds, ?_⟩
    rw [Value.encode, untagged, empty]
    rfl
  | _ => cases hollow
theorem exists_empty_of_allHollow (shapes : List Shape) {enclosing : List Shape}
    (hollow : AllHollow shapes) : ∃ vs : List Value, shapes.length = vs.length ∧
      (∀ p ∈ shapes.zip vs, Holds enclosing p.1 p.2) ∧ Value.encodeAll vs = [] := by
  cases shapes with
  | nil => exact ⟨[], rfl, nofun, rfl⟩
  | cons s shapes =>
    obtain ⟨v, first, empty⟩ := exists_empty_of_hollow s hollow.1
    obtain ⟨vs, size, others, rest⟩ := exists_empty_of_allHollow shapes hollow.2
    refine ⟨v :: vs, congrArg Nat.succ size, ?_, ?_⟩
    · rw [List.zip_cons_cons, List.forall_mem_cons]
      exact ⟨first, others⟩
    · rw [Value.encodeAll, empty, rest]
      rfl
end

theorem leastSize_pos {s : Shape} (formed : s.WellFormed 0 0) (solid : ¬ s.Hollow) :
    0 < s.leastSize :=
  Nat.pos_of_ne_zero fun empty => solid (hollow_of_leastSize s formed empty)

/-- Hollow shapes are the only ones that have a value without bytes. -/
theorem nonempty_iff_not_hollow {s : Shape} (formed : s.WellFormed 0 0) :
    (∀ v, Holds [] s v → v.encode ≠ []) ↔ ¬ s.Hollow := by
  constructor
  · intro nonempty hollow
    obtain ⟨v, holds, empty⟩ := exists_empty_of_hollow s hollow
    exact nonempty v holds empty
  · intro solid v holds empty
    have least := leastSize_le s holds
    rw [empty] at least
    exact absurd (leastSize_pos formed solid) (Nat.not_lt.mpr least)

end Shape
end Boundary
