import Boundary.Proofs.Wire.Nesting

/-!
Counts that are too large. Behind a count stand at least as many bytes as it counts items, unless
the items have no bytes at all; a reader that finds fewer comes to an item that it refuses before it
has gone through more items than there are bytes.
-/
namespace Boundary
namespace Reader
variable {α β : Type} {least count : Nat} {item : Reader α} {b rest : Bytes} {e : CodecError}

/-- The first item that is refused comes after at most `limit` others, and ends the reading. -/
def StopsWithin (limit : Nat) (item : Reader α) (b : Bytes) (e : CodecError) (rest : Bytes) :
    Prop :=
  ∃ read items left, read ≤ limit ∧ item.times read b = .ok items left ∧
    item left = .error e rest

theorem length_of_times {items : List α} (read : item.times count b = .ok items rest) :
    items.length = count := by
  induction count generalizing b items with
  | zero =>
    cases read
    rfl
  | succ count ih =>
    obtain ⟨a, left, -, others⟩ := exists_of_bind_ok read
    obtain ⟨later, others', rfl⟩ := exists_of_map_ok others
    rw [List.length_cons, ih others']

theorem stops_of_times (failed : item.times count b = .error e rest) :
    ∃ read items left, item.times read b = .ok items left ∧ item left = .error e rest := by
  induction count generalizing b with
  | zero => cases failed
  | succ count ih =>
    cases first : item b with
    | error f left =>
      cases (bind_error first).symm.trans failed
      exact ⟨0, [], b, rfl, first⟩
    | ok a left =>
      have others := (bind_ok first).symm.trans failed
      cases later : item.times count left with
      | ok items final => cases (bind_ok later).symm.trans others
      | error f final =>
        cases (bind_error later).symm.trans others
        obtain ⟨read, items, middle, before, refused⟩ := ih later
        refine ⟨read + 1, a :: items, middle, ?_, refused⟩
        exact (bind_ok first).trans (bind_ok before)

/-- Items of at least a byte each run out before the count does. -/
theorem Spends.stops (spends : Spends least item) (some : 0 < least) (short : b.length < count) :
    ∃ e rest, item.times count b = .error e rest ∧ StopsWithin b.length item b e rest := by
  cases answer : item.times count b with
  | ok items rest =>
    have taken := (spends.times count).length_le answer
    have each : count ≤ count * least := Nat.le_mul_of_pos_right count some
    omega
  | error e rest =>
    obtain ⟨read, items, left, before, refused⟩ := stops_of_times answer
    have taken := (spends.times read).length_le before
    have each : read ≤ read * least := Nat.le_mul_of_pos_right read some
    exact ⟨e, rest, rfl, read, items, left, by omega, before, refused⟩

/-- What `r` makes of a count and that many items. No count goes beyond the bytes behind it. -/
structure BoundsCounts (r : Reader β) (item : Reader α) (make : List α → β) : Prop where
  accepted : ∀ b v rest, r b = .ok v rest → ∃ count body items,
    b = lengthPrefix count ++ body ++ rest ∧ count ≤ maxLength ∧ items.length = count ∧
      v = make items ∧ count ≤ body.length
  refused : ∀ count body, count ≤ maxLength → body.length < count → ∃ e rest,
    r (lengthPrefix count ++ body) = .error e rest ∧ StopsWithin body.length item body e rest

theorem Spends.boundsCounts (spends : Spends least item) (some : 0 < least) (make : List α → β) :
    BoundsCounts (do return make (← item.times (← length))) item make := by
  constructor
  · intro b v rest read
    obtain ⟨count, left, counted, made⟩ := exists_of_bind_ok read
    obtain ⟨items, gone, rfl⟩ := exists_of_map_ok made
    obtain ⟨rfl, fits⟩ := exact_length b count left counted
    obtain ⟨body, rfl, taken⟩ := spends.times count left items rest gone
    have each : count ≤ count * least := Nat.le_mul_of_pos_right count some
    exact ⟨count, body, items, (List.append_assoc ..).symm, fits, length_of_times gone, rfl,
      Nat.le_trans each taken⟩
  · intro count body fits short
    obtain ⟨e, rest, failed, stops⟩ := spends.stops some short
    refine ⟨e, rest, ?_, stops⟩
    exact (bind_ok ((reads_length fits).exact body)).trans (bind_error failed)

end Reader

namespace Shape
open Reader

/-- A key and the value behind it. -/
def entryReader (k s : Shape) : Reader (Value × Value) := do return (← k.read, ← s.read)

/-- No count is accepted that goes beyond the bytes behind it, unless its items have no bytes: so it
is for lists, and for maps by their keys. The items that are read in vain are not more than those
bytes. A record inside itself is read level by level, also where it stands in other records, and
there are no more levels than one for each four bytes. -/
theorem corrupt_counts_refused :
    (∀ s : Shape, s.WellFormed 0 0 → ((∀ v, Holds [] s v → v.encode ≠ []) ↔ ¬ s.Hollow)) ∧
    (∀ s : Shape, s.WellFormed 0 0 → (∀ v, Holds [] s v → v.encode ≠ []) →
      BoundsCounts (Shape.list s).read s.read Value.list ∧
      ∀ other : Shape, BoundsCounts (Shape.map s other).read (entryReader s other) Value.ofPairs) ∧
    ∀ (opened enclosing : Nat) (head : RecordHead) (fields : List Shape),
      (Shape.record head fields).WellFormed opened enclosing →
      ∀ around : List (Reader Value), (∀ r ∈ around, Spends 0 r) →
        (∀ r, r = recordBody around head fields r ↔ r = (Shape.record head fields).reader around) ∧
        ∀ (b : Bytes) (depth : Nat) (innermost : Reader Value), b.length < 4 * depth →
          nested (recordBody around head fields) innermost depth b =
            (Shape.record head fields).reader around b := by
  refine ⟨fun s formed => nonempty_iff_not_hollow formed, ?_, ?_⟩
  · intro s formed nonempty
    have some := leastSize_pos formed ((nonempty_iff_not_hollow formed).1 nonempty)
    refine ⟨(spends_read s).boundsCounts some Value.list, fun other => ?_⟩
    have entry : Spends s.leastSize (entryReader s other) :=
      (spends_read s).before fun key => ((spends_read other).mono (Nat.zero_le _)).map (Prod.mk key)
    exact entry.boundsCounts some Value.ofPairs
  · intro opened enclosing head fields formed around each
    have descends := descends_recordBody formed (spends_around each)
    exact ⟨fun r => descends.eq_fix_iff, fun b depth innermost short =>
      descends.nested_eq_fix innermost short⟩

/-- A record of nothing but records like itself. -/
def nestHead : RecordHead := ⟨"Nest", "", none, []⟩
def nest : Shape := .record nestHead [.list (.again 0)]

/-- Nine are announced, and eight bytes are there, which make up two. One inside another takes two
levels, and what stands below them does not matter. -/
theorem corrupt_counts_refused_nest :
    let eight : Bytes := [0, 0, 0, 0, 0, 0, 0, 0]
    let inner : Bytes := [0, 0, 0, 1, 0, 0, 0, 0]
    let leaf : Value := .record none [.list []]
    (∃ e rest, (Shape.list nest).read (lengthPrefix 9 ++ eight) = .error e rest ∧
      StopsWithin 8 nest.read eight e rest) ∧
    (∃ e rest, (Shape.map nest (.record nestHead [])).read (lengthPrefix 1 ++ []) = .error e rest) ∧
    (∃ count body items, inner = lengthPrefix count ++ body ++ [] ∧ count ≤ maxLength ∧
      items.length = count ∧ Value.list [leaf] = .list items ∧ count ≤ body.length) ∧
    ∀ innermost, nested (recordBody [] nestHead [.list (.again 0)]) innermost 3 inner =
      .ok (.record none [.list [leaf]]) [] := by
  intro eight inner leaf
  obtain ⟨solid, bounds, levels⟩ := corrupt_counts_refused
  have formed : nest.WellFormed 0 0 := by
    simp [nest, WellFormed, WellFormed.fieldsWellFormed]
  have nonempty := (solid nest formed).2 fun hollow => hollow.2.1
  obtain ⟨lists, maps⟩ := bounds nest formed nonempty
  have listed : (Shape.list nest).lift inner = .ok (.list [leaf]) :=
    eq_ok_of_toOption (by decide +kernel)
  have lifted : nest.lift inner = .ok (.record none [.list [leaf]]) :=
    eq_ok_of_toOption (by decide +kernel)
  have plain : Shape.list nest ≠ .text ∧ nest ≠ .text := by simp [nest]
  rw [lift_ok_iff plain.1] at listed
  rw [lift_ok_iff plain.2] at lifted
  refine ⟨lists.refused 9 eight (by decide) (by decide), ?_, ?_, ?_⟩
  · obtain ⟨e, rest, refused, -⟩ :=
      (maps (.record nestHead [])).refused 1 [] (by decide) (by decide)
    exact ⟨e, rest, refused⟩
  · exact lists.accepted inner _ [] listed
  · intro innermost
    have enough : inner.length < 4 * 3 := by decide
    have alone : ∀ r ∈ ([] : List (Reader Value)), Spends 0 r := by simp
    exact ((levels 0 0 _ _ formed [] alone).2 inner 3 innermost enough).trans lifted

end Shape
end Boundary
