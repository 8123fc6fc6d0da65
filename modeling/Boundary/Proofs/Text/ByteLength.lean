import Boundary.Proofs.Text.ByteOrder
import Mathlib.Data.Nat.Digits.Defs
/-!
How many bytes a text takes. What is put together takes as many as its parts, and a number does not
take many.
-/
namespace Boundary
namespace Bytes

theorem length_ofText_append (s t : String) :
    (ofText (s ++ t)).length = (ofText s).length + (ofText t).length :=
  String.utf8ByteSize_append

/-- No character takes more than four bytes. -/
theorem length_ofText_le (s : String) : (ofText s).length ≤ 4 * s.length := by
  rw [ofText_eq_flatMap, ← String.length_toList]
  induction s.toList with
  | nil => exact Nat.zero_le _
  | cons c cs ih =>
    have first := c.utf8Size_le_four
    rw [List.flatMap_cons, List.length_append, String.length_utf8EncodeChar, List.length_cons]
    omega

theorem length_ofText_replicate (n : Nat) {c : Char} (single : c.utf8Size = 1) :
    (ofText (String.ofList (List.replicate n c))).length = n := by
  rw [ofText_eq_flatMap, String.toList_ofList]
  induction n with
  | zero => rfl
  | succ n ih =>
    rw [List.replicate_succ, List.flatMap_cons, List.length_append, String.length_utf8EncodeChar,
      single, ih, Nat.add_comm]

theorem length_ofText_nat {n places : Nat} (some : 0 < places) (small : n < Nat.pow 10 places) :
    (ofText (toString n)).length ≤ 4 * places :=
  (length_ofText_le _).trans (Nat.mul_le_mul_left 4 (Nat.repr_length n places some small))

theorem length_ofText_int {n : Int} {places : Nat} (some : 0 < places)
    (small : n.natAbs < Nat.pow 10 places) :
    (ofText (toString n)).length ≤ 4 * places + 1 := by
  cases n with
  | ofNat n => exact (length_ofText_nat some small).trans (Nat.le_succ _)
  | negSucc n =>
    have sign : (ofText "-").length = 1 := by decide
    have digits : (ofText (toString n.succ)).length ≤ 4 * places := length_ofText_nat some small
    change (ofText ("-" ++ toString n.succ)).length ≤ _
    rw [length_ofText_append]
    omega

end Bytes
end Boundary
