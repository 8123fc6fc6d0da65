import Boundary.Proofs.Wire.Append
import Boundary.Proofs.Wire.Orders
import Boundary.Proofs.Wire.Reads

/-!
What is written is read back, whatever stands before and behind it.

Records that contain themselves make the reader refer to itself. Such a reference stands behind
the count of a list or a map, so the input is shorter there than where the record began.
-/
namespace Boundary

namespace Value

theorem encodeAll_eq_flatMap (vs : List Value) : encodeAll vs = vs.flatMap encode := by
  induction vs with
  | nil => rfl
  | cons v vs ih => rw [encodeAll, ih, List.flatMap_cons]

theorem encodeEntries_eq_flatMap (entries : List (Value × Value)) :
    encodeEntries entries = entries.flatMap fun e => e.1.encode ++ e.2.encode := by
  induction entries with
  | nil => rfl
  | cons e rest ih => rw [encodeEntries, ih, List.flatMap_cons, List.append_assoc]

theorem insertEntry_of_not_mem {key value : Value} {entries : List (Value × Value)}
    (absent : key ∉ entries.map (·.1)) :
    insertEntry key value entries = entries ++ [(key, value)] := by
  induction entries with
  | nil => rfl
  | cons e rest ih =>
    simp only [List.map_cons, List.mem_cons, not_or] at absent
    rw [insertEntry, if_neg (Ne.symm absent.1), ih absent.2, List.cons_append]

theorem foldl_insertEntry_of_nodup {pairs entries : List (Value × Value)}
    (distinct : ((entries ++ pairs).map (·.1)).Nodup) :
    pairs.foldl (fun entries e => insertEntry e.1 e.2 entries) entries = entries ++ pairs := by
  induction pairs generalizing entries with
  | nil => simp
  | cons e pairs ih =>
    have absent : e.1 ∉ entries.map (·.1) := by
      simp only [List.map_append, List.map_cons, List.nodup_append, List.mem_cons] at distinct
      intro member
      exact distinct.2.2 e.1 member e.1 (.inl rfl) rfl
    have later : (((entries ++ [(e.1, e.2)]) ++ pairs).map (·.1)).Nodup := by
      simpa using distinct
    rw [List.foldl_cons, insertEntry_of_not_mem absent, ih later]
    simp

theorem ofPairs_of_nodup {entries : List (Value × Value)}
    (distinct : (entries.map (·.1)).Nodup) : ofPairs entries = .map entries := by
  rw [ofPairs, foldl_insertEntry_of_nodup (by simpa using distinct), List.nil_append]

end Value

namespace Shape
open Reader

/-- The readers of the records around a shape are ready below a bound; those that are opened, with
no count in between yet, below one less. -/
def Ready (opened bound : Nat) (enclosing : List Shape) (readers : List (Reader Value)) : Prop :=
  ∀ distance s outer v, enclosing.drop distance = s :: outer → Holds outer s v → v.Portable →
    ReadsBelow (if distance < opened then bound - 1 else bound)
      (readers.getD distance stuck) v.encode v

theorem ready_nil (opened bound : Nat) : Ready opened bound [] [] := by
  intro distance s outer v found
  simp at found

/-- Behind a count there is less input, so that all records around may begin again. -/
theorem Ready.behind_count {opened bound : Nat} {enclosing : List Shape}
    {readers : List (Reader Value)} (ready : Ready opened bound enclosing readers) (n : Nat) :
    Ready 0 (bound - (lengthPrefix n).length) enclosing readers := by
  intro distance s outer v found holds portable
  refine (ready distance s outer v found holds portable).mono ?_
  simp only [lengthPrefix, Bytes.length_ofInt]
  split <;> split <;> omega

/-- Inside a record that has just begun, with a reader for it that is ready below one less. -/
theorem Ready.inside {opened bound k : Nat} {enclosing : List Shape} {s : Shape}
    {readers : List (Reader Value)} {this : Reader Value}
    (ready : Ready opened bound enclosing readers) (below : k < bound)
    (self : ∀ v, Holds enclosing s v ∧ v.Portable → ReadsBelow k this v.encode v) :
    Ready (opened + 1) (k + 1) (s :: enclosing) (this :: readers) := by
  intro distance t outer v found holds portable
  cases distance with
  | zero =>
    obtain ⟨rfl, rfl⟩ := List.cons.inj found
    exact (self v ⟨holds, portable⟩).mono (by simp)
  | succ distance =>
    rw [List.getD_cons_succ]
    refine (ready distance t outer v found holds portable).mono ?_
    split <;> split <;> omega

mutual
theorem readsBelow_reader (s : Shape) {opened bound : Nat} {enclosing : List Shape}
    {readers : List (Reader Value)} {v : Value} (formed : s.WellFormed opened enclosing.length)
    (ready : Ready opened bound enclosing readers) (holds : Holds enclosing s v)
    (portable : v.Portable) : ReadsBelow bound (s.reader readers) v.encode v := by
  cases s with
  | int t =>
    cases holds with
    | int holds => exact (reads_int holds).map (Value.int t) bound
  | float t =>
    cases holds with
    | float fits => exact (reads_unsigned fits).map (Value.float t) bound
  | bool =>
    cases holds with
    | bool b => exact (reads_bool b).map Value.bool bound
  | text =>
    cases holds with
    | text s => exact (reads_text portable.length_le).map Value.text bound
  | bytes =>
    cases holds with
    | bytes b =>
      exact (reads_length portable.length_le).bind ((reads_take rfl).map Value.bytes) bound
  | instant =>
    cases holds with
    | instant valid =>
      exact (reads_instant valid (portable.no_leap _ .self)).map Value.instant bound
  | option s =>
    cases holds with
    | absent =>
      refine Reads.bind_pure (reads_byte 0) ?_ bound
      rfl
    | present inner =>
      have read := readsBelow_reader s formed ready inner (portable.child List.mem_cons_self)
      exact (reads_byte 1 bound).bind (read.map Value.present)
  | list s =>
    cases holds with
    | @list _ _ vs items =>
      have fits : vs.length ≤ maxLength := portable.length_le
      have each : ∀ v ∈ vs, ReadsBelow (bound - (lengthPrefix vs.length).length)
          (s.reader readers) v.encode v := fun v member =>
        readsBelow_reader s formed (ready.behind_count vs.length) (items v member)
          (portable.child member)
      rw [Value.encode, Value.encodeAll_eq_flatMap]
      exact (reads_length fits bound).bind_sub ((readsBelow_times _ each).map Value.list)
  | map k s =>
    cases holds with
    | @map _ _ _ entries distinct keys values =>
      have fits : entries.length ≤ maxLength := portable.length_le
      have behind := ready.behind_count entries.length
      have each : ∀ e ∈ entries, ReadsBelow (bound - (lengthPrefix entries.length).length)
          (do return (← k.reader readers, ← s.reader readers)) (e.1.encode ++ e.2.encode) e := by
        intro e member
        have key := readsBelow_reader k formed.1 behind (keys e member)
          (portable.child (Value.key_mem_children member))
        have value := readsBelow_reader s formed.2 behind (values e member)
          (portable.child (Value.entry_mem_children member))
        exact key.bind (value.map (Prod.mk e.1))
      rw [Value.encode, Value.encodeEntries_eq_flatMap, ← Value.ofPairs_of_nodup distinct]
      exact (reads_length fits bound).bind_sub ((readsBelow_times _ each).map Value.ofPairs)
  | record head fields =>
    rw [WellFormed] at formed
    rw [reader]
    refine readsBelow_fix (fun v => Holds enclosing (.record head fields) v ∧ v.Portable)
      Value.encode ?_ ⟨holds, portable⟩
    intro k below this self v good
    obtain ⟨holds, portable⟩ := good
    cases holds with
    | record tagged size parts =>
      have read := readsBelow_fieldsReader fields formed (ready.inside below self) size parts
        fun v member => portable.child member
      exact (reads_tag tagged _).bind (read.map (Value.record head.tag))
  | enum head =>
    cases holds with
    | variant member holds => exact (reads_variant member holds).map Value.variant bound
  | again distance =>
    cases holds with
    | again found holds =>
      have read := ready distance _ _ v found holds portable
      rwa [if_neg (Nat.not_lt.mpr formed.1)] at read
theorem readsBelow_fieldsReader (shapes : List Shape) {opened bound : Nat}
    {enclosing : List Shape} {readers : List (Reader Value)} {vs : List Value}
    (formed : WellFormed.fieldsWellFormed opened enclosing.length shapes)
    (ready : Ready opened bound enclosing readers) (size : shapes.length = vs.length)
    (holds : ∀ p ∈ shapes.zip vs, Holds enclosing p.1 p.2) (portable : ∀ v ∈ vs, v.Portable) :
    ReadsBelow bound (fieldsReader readers shapes) (Value.encodeAll vs) vs := by
  cases shapes with
  | nil =>
    cases vs with
    | nil => exact reads_pure [] bound
    | cons v vs => simp at size
  | cons s shapes =>
    cases vs with
    | nil => simp at size
    | cons v vs =>
      have first := readsBelow_reader s formed.1 ready (holds (s, v) List.mem_cons_self)
        (portable v List.mem_cons_self)
      have later := readsBelow_fieldsReader shapes formed.2 ready (Nat.succ.inj size)
        (fun p member => holds p (List.mem_cons_of_mem _ member))
        (fun w member => portable w (List.mem_cons_of_mem v member))
      exact first.bind (later.map (v :: ·))
end

theorem read_encode {s : Shape} {v : Value} (formed : s.WellFormed 0 0) (holds : Holds [] s v)
    (portable : v.Portable) (rest : Bytes) : s.read (v.encode ++ rest) = .ok v rest :=
  readsBelow_reader s formed (ready_nil 0 _) holds portable rest (Nat.lt_succ_self _)

/-- A text by itself needs no prefix, so that no text is too long. -/
theorem lift_lower_text (text : String) :
    Value.lower (.text text) = .ok (Bytes.ofText text) ∧
      Shape.lift .text (Bytes.ofText text) = .ok (.text text) := by
  simp [Value.lower, lift]

theorem lift_lower {s : Shape} {v : Value} (formed : s.WellFormed 0 0) (holds : Holds [] s v)
    (portable : v.Portable) : ∃ whole, v.lower = .ok whole ∧ s.lift whole = .ok v := by
  by_cases text : ∃ t, v = .text t
  · obtain ⟨t, rfl⟩ := text
    cases holds with
    | text => exact ⟨_, lift_lower_text t⟩
    | again found => simp at found
  · have lower : v.lower = .ok v.encode := by
      rw [← Value.write_of_portable portable]
      cases v <;> simp_all [Value.lower]
    have read := read_encode formed holds portable []
    rw [List.append_nil] at read
    refine ⟨v.encode, lower, ?_⟩
    unfold lift
    split
    · cases holds
      simp at text
    · rw [read]

theorem wellFormed_of_mem {shapes : List Shape} {opened enclosing : Nat}
    (formed : ∀ s ∈ shapes, s.WellFormed opened enclosing) :
    WellFormed.fieldsWellFormed opened enclosing shapes := by
  induction shapes with
  | nil => trivial
  | cons s shapes ih =>
    exact ⟨formed s List.mem_cons_self, ih fun t member => formed t (List.mem_cons_of_mem s member)⟩

theorem find?_of_nodup {β : Type} [DecidableEq β] (told : Variant → β) {variants : List Variant}
    {v : Variant} (distinct : (variants.map told).Nodup) (member : v ∈ variants) :
    variants.find? (fun w => told w = told v) = some v := by
  induction variants with
  | nil => simp at member
  | cons w rest ih =>
    obtain ⟨fresh, distinct⟩ : told w ∉ rest.map told ∧ (rest.map told).Nodup :=
      List.nodup_cons.mp distinct
    rcases List.mem_cons.mp member with rfl | member
    · simp
    · have other : told w ≠ told v := by
        intro same
        apply fresh
        rw [same]
        exact List.mem_map_of_mem member
      simp [other, ih distinct member]

theorem find?_number {variants : List Variant} {v : Variant}
    (distinct : (variants.map (·.number)).Nodup) (member : v ∈ variants) :
    variants.find? (·.number = v.number) = some v :=
  find?_of_nodup (·.number) distinct member

theorem find?_key {variants : List Variant} {v : Variant}
    (distinct : (variants.map (·.key)).Nodup) (member : v ∈ variants) :
    variants.find? (·.key = v.key) = some v :=
  find?_of_nodup (·.key) distinct member

/-- Every value of a shape comes back from what was written for it, whatever the orders in which its
maps were visited, with anything in the buffer before it and anything behind it; so do values that
are written one after the other, and a value that fills a buffer by itself. -/
theorem round_trip_in_context :
    (∀ (s : Shape) (v w : Value), s.WellFormed 0 0 → Holds [] s v → v.Portable → v.Reordered w →
      ∃ written, w.write = .ok written ∧
        (∀ buffer, w.append buffer = .ok (buffer ++ written)) ∧
        (∀ rest, s.read (written ++ rest) = .ok w rest) ∧
        ∃ whole, w.lower = .ok whole ∧ s.lift whole = .ok w) ∧
    (∀ items : List (Shape × Value),
      (∀ i ∈ items, i.1.WellFormed 0 0 ∧ Holds [] i.1 i.2 ∧ i.2.Portable) →
      ∃ written, (∀ buffer, Value.appendAll (items.map (·.2)) buffer = .ok (buffer ++ written)) ∧
        ∀ rest, fieldsReader [] (items.map (·.1)) (written ++ rest) =
          .ok (items.map (·.2)) rest) ∧
    (∀ text : String, Value.lower (.text text) = .ok (Bytes.ofText text) ∧
      Shape.lift .text (Bytes.ofText text) = .ok (.text text)) ∧
    ∀ (head : EnumHead) (v : Variant), (head.variants.map (·.number)).Nodup →
      v ∈ head.variants → IntType.i32.Holds v.number → ∃ written number,
        Value.write (.variant v.number) = .ok written ∧
        (∀ rest, (Shape.enum head).read (written ++ rest) = .ok (.variant number) rest) ∧
        head.variants.find? (·.number = number) = some v := by
  refine ⟨?_, ?_, lift_lower_text, ?_⟩
  · intro s v w formed holds portable orders
    have holds := holds.reordered orders
    have portable := portable.reordered orders
    have write := Value.write_of_portable portable
    refine ⟨w.encode, write, ?_, read_encode formed holds portable,
      lift_lower formed holds portable⟩
    intro buffer
    rw [Value.append_eq_write, write]
    rfl
  · intro items each
    have portable : ∀ v ∈ items.map (·.2), v.Portable := by
      intro v member
      obtain ⟨i, found, rfl⟩ := List.mem_map.mp member
      exact (each i found).2.2
    have formed : ∀ s ∈ items.map (·.1), s.WellFormed 0 0 := by
      intro s member
      obtain ⟨i, found, rfl⟩ := List.mem_map.mp member
      exact (each i found).1
    refine ⟨Value.encodeAll (items.map (·.2)), ?_, ?_⟩
    · intro buffer
      rw [Value.appendAll_eq_settled, Value.anyOversize?_eq_none portable]
      rfl
    · intro rest
      have holds : ∀ p ∈ (items.map (·.1)).zip (items.map (·.2)), Holds [] p.1 p.2 := by
        intro p member
        rw [List.zip_map'] at member
        obtain ⟨i, found, rfl⟩ := List.mem_map.mp member
        exact (each i found).2.1
      exact readsBelow_fieldsReader _ (wellFormed_of_mem formed) (ready_nil 0 _) (by simp) holds
        portable rest (Nat.lt_succ_self _)
  · intro head v distinct member holds
    have read : Reads ((Shape.enum head).reader []) _ _ :=
      (reads_variant member holds).map Value.variant
    exact ⟨Bytes.ofInt 4 v.number, v.number, rfl, read.exact, find?_number distinct member⟩

/-- A tree of named nodes, each with a map from small numbers to flags that may be unknown. -/
def flagTree : Shape :=
  .record ⟨"Tree", "", none, []⟩
    [.text, .list (.again 0), .map (.int .u8) (.option (.option .bool))]

def flagNode (name : String) (children : List Value) (flags : List (Value × Value)) : Value :=
  .record none [.text name, .list children, .map flags]

theorem round_trip_of_flagTree :
    let leaf (flags : List (Value × Value)) := flagNode "" [] flags
    let one : Value × Value := (.int .u8 1, .absent)
    let two : Value × Value := (.int .u8 255, .present (.present (.bool true)))
    let v := flagNode "root" [leaf [one, two]] []
    let w := flagNode "root" [leaf [two, one]] []
    flagTree.WellFormed 0 0 ∧ Holds [] flagTree v ∧ v.Portable ∧ v.Reordered w ∧
      ∃ written, w.write = .ok written ∧
        (∀ buffer, w.append buffer = .ok (buffer ++ written)) ∧
        (∀ rest, flagTree.read (written ++ rest) = .ok w rest) ∧
        ∃ whole, w.lower = .ok whole ∧ flagTree.lift whole = .ok w := by
  intro leaf one two v w
  have formed : flagTree.WellFormed 0 0 := by
    simp [flagTree, WellFormed, WellFormed.fieldsWellFormed]
  have flags : ∀ enclosing, Holds enclosing (.map (.int .u8) (.option (.option .bool)))
      (.map [one, two]) := by
    intro enclosing
    refine .map (by decide) ?_ ?_
    · simp only [List.forall_mem_cons, one, two]
      exact ⟨.int (by decide), .int (by decide), by simp⟩
    · simp only [List.forall_mem_cons, one, two]
      exact ⟨.absent, .present (.present (.bool true)), by simp⟩
  have child : Holds [] flagTree (leaf [one, two]) := by
    refine .record (by simp) rfl ?_
    simp only [List.zip_cons_cons, List.forall_mem_cons]
    exact ⟨.text "", .list (by simp), flags _, by simp⟩
  have holds : Holds [] flagTree v := by
    refine .record (by simp) rfl ?_
    simp only [List.zip_cons_cons, List.forall_mem_cons]
    refine ⟨.text "root", .list ?_, .map (by simp) (by simp) (by simp), by simp⟩
    simp only [List.forall_mem_cons]
    exact ⟨.again rfl child, by simp⟩
  have flags_portable : ∀ e ∈ [one, two], e.1.Portable ∧ e.2.Portable := by
    have known : (Value.bool true).Portable := (Value.portable_cases _).2 trivial
    have number : ∀ n, (Value.int .u8 n).Portable := fun _ => (Value.portable_cases _).2 trivial
    simp only [List.forall_mem_cons, one, two]
    refine ⟨⟨number 1, (Value.portable_cases _).2 trivial⟩, ⟨number 255, ?_⟩, by simp⟩
    exact (Value.portable_cases _).2 ((Value.portable_cases _).2 known)
  have node_portable : ∀ name children flags, (Bytes.ofText name).length ≤ maxLength →
      (Value.list children).Portable → (Value.map flags).Portable →
      (flagNode name children flags).Portable := by
    intro name children flags named listed mapped
    have each : ∀ u ∈ [Value.text name, .list children, .map flags], u.Portable := by
      simp only [List.forall_mem_cons]
      exact ⟨(Value.portable_cases _).2 named, listed, mapped, by simp⟩
    exact (Value.portable_cases _).2 each
  have leaf_portable : (leaf [one, two]).Portable :=
    node_portable _ _ _ (by decide) ((Value.portable_cases _).2 (by simp))
      ((Value.portable_cases _).2 ⟨by decide, flags_portable⟩)
  have portable : v.Portable :=
    node_portable _ _ _ (by decide)
      ((Value.portable_cases _).2 ⟨by decide, by simpa using leaf_portable⟩)
      ((Value.portable_cases _).2 (by simp))
  have orders : v.Reordered w := by
    have swapped : Value.Reordered (leaf [one, two]) (leaf [two, one]) :=
      ⟨rfl, rfl, trivial, ⟨[one, two], ⟨rfl, rfl, rfl, rfl, trivial⟩, .swap ..⟩, trivial⟩
    exact ⟨rfl, rfl, ⟨swapped, trivial⟩, ⟨[], trivial, .nil⟩, trivial⟩
  exact ⟨formed, holds, portable, orders,
    round_trip_in_context.1 flagTree v w formed holds portable orders⟩

end Shape
end Boundary
