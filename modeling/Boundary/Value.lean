import Boundary.Bytes
import Boundary.Instant
import Boundary.Shape
/-!
Values that cross the boundary, and which of them have a given shape.

A map is the list of its entries in the order in which they are visited; no key is there twice.
-/
namespace Boundary

inductive Value where
  | int (t : IntType) (n : Int)
  | float (t : FloatType) (bits : Nat)
  | bool (b : Bool)
  | text (s : String)
  | bytes (b : Bytes)
  | instant (t : Instant)
  | absent
  | present (v : Value)
  | list (vs : List Value)
  | map (entries : List (Value × Value))
  | record (tag : Option Nat) (fields : List Value)
  | variant (number : Int)
  deriving Repr, Inhabited

namespace Value

mutual
def same : (a b : Value) → Bool
  | .int t n, .int u m => t = u && n = m
  | .float t n, .float u m => t = u && n = m
  | .bool a, .bool b => a = b
  | .text a, .text b => a = b
  | .bytes a, .bytes b => a = b
  | .instant a, .instant b => a = b
  | .absent, .absent => true
  | .present a, .present b => same a b
  | .list a, .list b => sameList a b
  | .map a, .map b => sameEntries a b
  | .record t a, .record u b => t = u && sameList a b
  | .variant a, .variant b => a = b
  | _, _ => false
def sameList : (a b : List Value) → Bool
  | [], [] => true
  | v :: vs, w :: ws => same v w && sameList vs ws
  | _, _ => false
def sameEntries : (a b : List (Value × Value)) → Bool
  | [], [] => true
  | (k, v) :: vs, (l, w) :: ws => same k l && same v w && sameEntries vs ws
  | _, _ => false
end

mutual
theorem eq_of_same : ∀ {a b : Value}, same a b = true → a = b
  | .int .., b, h | .float .., b, h | .bool .., b, h | .text .., b, h | .bytes .., b, h
  | .instant .., b, h | .absent, b, h | .variant .., b, h => by cases b <;> simp_all [same]
  | .present a, b, h => by
    cases b with
    | present b => rw [eq_of_same (a := a) (b := b) (by simpa [same] using h)]
    | _ => simp [same] at h
  | .list a, b, h => by
    cases b with
    | list b => rw [eq_of_sameList (a := a) (b := b) (by simpa [same] using h)]
    | _ => simp [same] at h
  | .map a, b, h => by
    cases b with
    | map b => rw [eq_of_sameEntries (a := a) (b := b) (by simpa [same] using h)]
    | _ => simp [same] at h
  | .record t a, b, h => by
    cases b with
    | record u b =>
      simp only [same, Bool.and_eq_true, decide_eq_true_eq] at h
      rw [h.1, eq_of_sameList h.2]
    | _ => simp [same] at h
theorem eq_of_sameList : ∀ {a b : List Value}, sameList a b = true → a = b
  | [], b, h => by cases b <;> simp_all [sameList]
  | v :: vs, b, h => by
    cases b with
    | nil => simp [sameList] at h
    | cons w ws =>
      simp only [sameList, Bool.and_eq_true] at h
      rw [eq_of_same h.1, eq_of_sameList h.2]
theorem eq_of_sameEntries : ∀ {a b : List (Value × Value)}, sameEntries a b = true → a = b
  | [], b, h => by cases b <;> simp_all [sameEntries]
  | (k, v) :: vs, b, h => by
    cases b with
    | nil => simp [sameEntries] at h
    | cons e ws =>
      simp only [sameEntries, Bool.and_eq_true] at h
      rw [eq_of_same h.1.1, eq_of_same h.1.2, eq_of_sameEntries h.2]
end

mutual
theorem same_self : ∀ a : Value, same a a = true
  | .int .. | .float .. | .bool .. | .text .. | .bytes .. | .instant .. | .absent
  | .variant .. => by simp [same]
  | .present a => by simp [same, same_self a]
  | .list a => by simp [same, sameList_self a]
  | .map a => by simp [same, sameEntries_self a]
  | .record t a => by simp [same, sameList_self a]
theorem sameList_self : ∀ a : List Value, sameList a a = true
  | [] => rfl
  | v :: vs => by simp [sameList, same_self v, sameList_self vs]
theorem sameEntries_self : ∀ a : List (Value × Value), sameEntries a a = true
  | [] => rfl
  | (k, v) :: vs => by simp [sameEntries, same_self k, same_self v, sameEntries_self vs]
end

theorem same_iff {a b : Value} : same a b = true ↔ a = b :=
  ⟨eq_of_same, fun h => h ▸ same_self a⟩

instance : DecidableEq Value := fun _ _ => decidable_of_iff _ same_iff

/-- An entry for `key` in place of the one that is there, or after all others. -/
def insertEntry (key value : Value) : List (Value × Value) → List (Value × Value)
  | [] => [(key, value)]
  | (k, v) :: rest =>
    if k = key then (key, value) :: rest else (k, v) :: insertEntry key value rest

/-- The map in which each key has the value of its last pair. -/
def ofPairs (pairs : List (Value × Value)) : Value :=
  .map (pairs.foldl (fun entries e => insertEntry e.1 e.2 entries) [])

mutual
/-- Whether the encoding depends on the order in which a map is visited. -/
def unstable : Value → Bool
  | .present v => unstable v
  | .list vs => anyUnstable vs
  | .map entries => entries.length ≥ 2 || anyEntryUnstable entries
  | .record _ fields => anyUnstable fields
  | _ => false
def anyUnstable : List Value → Bool
  | [] => false
  | v :: vs => unstable v || anyUnstable vs
def anyEntryUnstable : List (Value × Value) → Bool
  | [] => false
  | (k, v) :: rest => unstable k || unstable v || anyEntryUnstable rest
end

end Value
end Boundary
