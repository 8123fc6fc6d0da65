import Boundary.Bytes
import Mathlib.Tactic.SplitIfs

/-!
The order of texts is the order of their UTF-8 forms: a character that comes later has a form that
comes later, and of two forms neither is the front of the other.
-/
namespace Boundary
namespace Bytes

theorem ofText_eq_flatMap (s : String) :
    ofText s = s.toList.flatMap String.utf8EncodeChar := by
  have spelled := String.toByteArray_ofList (l := s.toList)
  rw [String.ofList_toList] at spelled
  simp [ofText, spelled, List.utf8Encode]

theorem cons_ofNat_lt_iff {m n : Nat} (hm : m < 256) (hn : n < 256) (x y : Bytes) :
    UInt8.ofNat m :: x < UInt8.ofNat n :: y ↔ m < n ∨ m = n ∧ x < y := by
  rw [List.cons_lt_cons_iff, UInt8.lt_iff_toNat_lt, ← UInt8.toNat_inj]
  simp only [UInt8.toNat_ofNat', Nat.mod_eq_of_lt hm, Nat.mod_eq_of_lt hn]

/-- Longer forms begin with greater bytes, and forms of one length differ in a digit. -/
theorem utf8_lt_of_lt {c d : Char} (lt : c < d) (x y : Bytes) :
    String.utf8EncodeChar c ++ x < String.utf8EncodeChar d ++ y := by
  have below : c.val.toNat < d.val.toNat := lt
  have range : d.val.toNat < 1114112 := by
    rcases d.valid with low | ⟨-, high⟩
    · have : d.val.toNat < 55296 := low
      omega
    · exact high
  rw [String.utf8EncodeChar.eq_1 c, String.utf8EncodeChar.eq_1 d]
  generalize c.val.toNat = m at below
  generalize d.val.toNat = n at below range
  have groups (k : Nat) (le : k ≤ n) :
      k / 4096 = k / 64 / 64 ∧ k / 262144 % 8 = k / 64 / 64 / 64 := by omega
  obtain ⟨second, third⟩ := groups m (by omega)
  obtain ⟨second', third'⟩ := groups n (by omega)
  split_ifs
  all_goals
    simp (disch := omega) only [List.cons_append, List.nil_append, cons_ofNat_lt_iff, second,
      third, second', third']
    omega

theorem flatMap_utf8_lt {cs ds : List Char} (lt : cs < ds) :
    cs.flatMap String.utf8EncodeChar < ds.flatMap String.utf8EncodeChar := by
  induction cs generalizing ds with
  | nil =>
    cases ds with
    | nil => exact absurd lt (List.lt_irrefl [])
    | cons d ds =>
      cases form : String.utf8EncodeChar d with
      | nil => exact absurd form String.utf8EncodeChar_ne_nil
      | cons first rest =>
        rw [List.flatMap_cons, form]
        exact List.nil_lt_cons ..
  | cons c cs ih =>
    cases ds with
    | nil => exact absurd lt (List.not_lt_nil _)
    | cons d ds =>
      rw [List.flatMap_cons, List.flatMap_cons]
      rcases List.cons_lt_cons_iff.mp lt with first | ⟨rfl, rest⟩
      · exact utf8_lt_of_lt first _ _
      · exact List.append_left_lt (ih rest)

/-- A text comes before another one exactly if its bytes do. -/
theorem ofText_lt_iff {s t : String} : ofText s < ofText t ↔ s < t := by
  have keeps : ∀ {s t : String}, s < t → ofText s < ofText t := by
    intro s t lt
    rw [ofText_eq_flatMap, ofText_eq_flatMap]
    exact flatMap_utf8_lt lt
  constructor
  · intro lt
    apply Classical.byContradiction
    intro later
    have le : t ≤ s := Std.not_lt.mp later
    by_cases same : t = s
    · rw [same] at lt
      exact List.lt_irrefl _ lt
    · exact List.lt_asymm lt (keeps (Std.lt_of_le_of_ne le same))
  · exact keeps

end Bytes
end Boundary
