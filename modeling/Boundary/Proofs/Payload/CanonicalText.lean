import Boundary.Payload.Thumbprint
import Mathlib.Data.List.Infix

/-!
The canonical text of a key, and what can be told from it. Nothing in it is escaped, so a member may
hold what begins the next one. Keys whose members hold none of it are told apart; every other key
shares its text with a key that has other members.
-/
namespace Boundary

/-- What ends one member and begins the next. -/
def seam (name : String) : List Char := '"' :: ',' :: '"' :: (name.toList ++ "\":\"".toList)

/-- No other quote in the seam has a comma behind it, so it cannot overlap itself by more than the
quotes at its ends. -/
def Clasped (name : String) : Prop := ¬ ['"', ','] <:+: (seam name).tail

instance (name : String) : Decidable (Clasped name) := inferInstanceAs (Decidable (¬ _))

section
variable {name : String} {a b more rest other : List Char}

theorem eq_nil_of_over_seam (clasped : Clasped name) (free : ¬ seam name <:+: more ++ ['"'])
    (same : seam name ++ rest = more ++ (seam name ++ other)) : more = [] := by
  cases more with
  | nil => rfl
  | cons first later =>
    have begun : seam name <+: first :: later ++ (seam name ++ other) := ⟨rest, same⟩
    have quoted : first :: later ++ ['"'] <+: first :: later ++ (seam name ++ other) :=
      (List.prefix_append_right_inj _).2 ⟨_, rfl⟩
    have comma : first :: later ++ ['"', ','] <+: first :: later ++ (seam name ++ other) :=
      (List.prefix_append_right_inj _).2 ⟨_, rfl⟩
    rcases Nat.lt_or_ge (later.length + 2) (seam name).length with long | short
    · have inside := List.prefix_of_prefix_length_le comma begun (by simp; omega)
      have behind : later ++ ['"', ','] <+: (seam name).tail := (List.cons_prefix_cons.1 inside).2
      exact absurd ((List.suffix_append later _).isInfix.trans behind.isInfix) clasped
    · have held := List.prefix_of_prefix_length_le begun quoted (by simpa using short)
      exact absurd held.isInfix free

theorem not_infix_of_append (free : ¬ seam name <:+: a ++ more ++ ['"']) :
    ¬ seam name <:+: more ++ ['"'] := by
  rw [List.append_assoc] at free
  exact fun held => free (held.trans (List.suffix_append a _).isInfix)

theorem cut_at_seam (clasped : Clasped name) (first : ¬ seam name <:+: a ++ ['"'])
    (second : ¬ seam name <:+: b ++ ['"'])
    (same : a ++ (seam name ++ rest) = b ++ (seam name ++ other)) : a = b ∧ rest = other := by
  rcases List.append_eq_append_iff.1 same with ⟨more, rfl, back⟩ | ⟨more, rfl, back⟩
  · obtain rfl := eq_nil_of_over_seam clasped (not_infix_of_append second) back
    simpa using back
  · obtain rfl := eq_nil_of_over_seam clasped (not_infix_of_append first) back
    simpa using back.symm

/-- A text that holds the seam can be cut short there. -/
theorem exists_front_of_seam {quote : List Char} (short : quote.length ≤ 1)
    (held : seam name <:+: a ++ quote) :
    ∃ front back, a ++ quote = front ++ (seam name ++ back) ∧ a ≠ front := by
  obtain ⟨front, back, same⟩ := held
  rw [List.append_assoc] at same
  refine ⟨front, back, same.symm, ?_⟩
  rintro rfl
  have size := congrArg List.length (List.append_cancel_left same)
  simp only [seam, List.length_append, List.length_cons] at size
  omega

/-- What is cut off goes to the next member, together with the seam that was meant. -/
theorem append_seam_of_cut {front back : List Char}
    (cut : a ++ ['"'] = front ++ (seam name ++ back)) (rest : List Char) :
    front ++ (seam name ++ (back ++ (seam name).tail ++ rest)) = a ++ (seam name ++ rest) := by
  have meant : a ++ (seam name ++ rest) = a ++ ['"'] ++ ((seam name).tail ++ rest) := by
    simp [seam]
  rw [meant, cut]
  simp only [List.append_assoc]

end

namespace Jwk

/-- What stands behind the text of `x`. -/
def ending : Option String → List Char
  | none => ['"', '}']
  | some y => seam "y" ++ (y.toList ++ ['"', '}'])

theorem toList_canonicalText (key : Jwk) : key.canonicalText.toList =
    "\x7b\"crv\":\"".toList ++ (key.crv.toList ++ (seam "kty" ++ (key.kty.toList ++
      (seam "x" ++ (key.x.toList ++ ending key.y))))) := by
  cases y : key.y <;>
    simp [canonicalText, canonicalMember, ending, seam, y]

/-- The quote behind `x`, if a member follows. -/
def quoteBefore : Option String → List Char
  | none => []
  | some _ => ['"']

theorem length_quoteBefore_le (y : Option String) : (quoteBefore y).length ≤ 1 := by
  cases y <;> simp [quoteBefore]

/-- No member holds what begins the next one. The quote behind it may belong to that, too. -/
def Undivided (key : Jwk) : Prop :=
  ¬ seam "kty" <:+: key.crv.toList ++ ['"'] ∧ ¬ seam "x" <:+: key.kty.toList ++ ['"'] ∧
    ¬ seam "y" <:+: key.x.toList ++ quoteBefore key.y

instance (key : Jwk) : Decidable key.Undivided := inferInstanceAs (Decidable (_ ∧ _ ∧ _))

/-- The members that every key has to have are the same, and so is `y`. What the keys are used with,
and their private parts, may differ. -/
def SameMembers (key other : Jwk) : Prop :=
  key.crv = other.crv ∧ key.kty = other.kty ∧ key.x = other.x ∧ key.y = other.y

instance (key other : Jwk) : Decidable (key.SameMembers other) :=
  inferInstanceAs (Decidable (_ ∧ _ ∧ _ ∧ _))

theorem SameMembers.canonicalText_eq {key other : Jwk} (same : key.SameMembers other) :
    key.canonicalText = other.canonicalText := by
  obtain ⟨crv, kty, x, y⟩ := same
  rw [canonicalText, canonicalText, crv, kty, x, y]

theorem not_closed_over_seam {x x' : List Char} {y : String} (free : ¬ seam "y" <:+: x) :
    x ++ ending none ≠ x' ++ ending (some y) := by
  intro same
  have size := congrArg List.length same
  simp only [ending, List.length_append, List.length_cons, List.length_nil] at size
  have begun : x' ++ seam "y" <+: x ++ ending none := by
    rw [same, ending, ← List.append_assoc]
    exact List.prefix_append ..
  have held : x' ++ seam "y" <+: x := by
    refine List.prefix_of_prefix_length_le begun (List.prefix_append x _) ?_
    rw [List.length_append]
    omega
  exact free ((List.suffix_append x' _).isInfix.trans held.isInfix)

theorem cut_at_ending {x x' : List Char} {y y' : Option String}
    (first : ¬ seam "y" <:+: x ++ quoteBefore y) (second : ¬ seam "y" <:+: x' ++ quoteBefore y')
    (same : x ++ ending y = x' ++ ending y') : x = x' ∧ y = y' := by
  cases y with
  | none =>
    rw [quoteBefore, List.append_nil] at first
    cases y' with
    | none => exact ⟨List.append_cancel_right same, rfl⟩
    | some y' => exact absurd same (not_closed_over_seam first)
  | some y =>
    cases y' with
    | none =>
      rw [quoteBefore, List.append_nil] at second
      exact absurd same.symm (not_closed_over_seam second)
    | some y' =>
      obtain ⟨text, back⟩ := cut_at_seam (by decide) first second same
      have last := List.append_cancel_right back
      exact ⟨text, congrArg some (String.toList_inj.1 last)⟩

theorem Undivided.sameMembers {key other : Jwk} (first : key.Undivided) (second : other.Undivided)
    (same : key.canonicalText = other.canonicalText) : key.SameMembers other := by
  obtain ⟨crv, kty, x⟩ := first
  obtain ⟨crv', kty', x'⟩ := second
  rw [← String.toList_inj, toList_canonicalText, toList_canonicalText] at same
  obtain ⟨sameCrv, same⟩ := cut_at_seam (by decide) crv crv' (List.append_cancel_left same)
  obtain ⟨sameKty, same⟩ := cut_at_seam (by decide) kty kty' same
  obtain ⟨sameX, sameY⟩ := cut_at_ending x x' same
  exact ⟨String.toList_inj.1 sameCrv, String.toList_inj.1 sameKty, String.toList_inj.1 sameX, sameY⟩

theorem exists_shared_of_crv {key : Jwk} (held : seam "kty" <:+: key.crv.toList ++ ['"']) :
    ∃ other : Jwk, key.canonicalText = other.canonicalText ∧ key.crv ≠ other.crv := by
  obtain ⟨front, back, cut, shorter⟩ := exists_front_of_seam (by decide) held
  have moved := append_seam_of_cut cut
  refine ⟨{ key with
    crv := String.ofList front
    kty := String.ofList (back ++ (seam "kty").tail ++ key.kty.toList) }, ?_, ?_⟩
  · rw [← String.toList_inj, toList_canonicalText, toList_canonicalText]
    simp only [String.toList_ofList, List.append_assoc] at moved ⊢
    rw [moved]
  · exact fun same => shorter (by rw [same, String.toList_ofList])

theorem exists_shared_of_kty {key : Jwk} (held : seam "x" <:+: key.kty.toList ++ ['"']) :
    ∃ other : Jwk, key.canonicalText = other.canonicalText ∧ key.kty ≠ other.kty := by
  obtain ⟨front, back, cut, shorter⟩ := exists_front_of_seam (by decide) held
  have moved := append_seam_of_cut cut
  refine ⟨{ key with
    kty := String.ofList front
    x := String.ofList (back ++ (seam "x").tail ++ key.x.toList) }, ?_, ?_⟩
  · rw [← String.toList_inj, toList_canonicalText, toList_canonicalText]
    simp only [String.toList_ofList, List.append_assoc] at moved ⊢
    rw [moved]
  · exact fun same => shorter (by rw [same, String.toList_ofList])

theorem exists_shared_of_x {key : Jwk} (held : seam "y" <:+: key.x.toList ++ quoteBefore key.y) :
    ∃ other : Jwk, key.canonicalText = other.canonicalText ∧ key.x ≠ other.x := by
  obtain ⟨alg, kty, crv, d, x, y⟩ := key
  cases y with
  | none =>
    obtain ⟨front, back, cut, shorter⟩ := exists_front_of_seam (length_quoteBefore_le _) held
    rw [quoteBefore, List.append_nil] at cut
    refine ⟨⟨alg, kty, crv, d, String.ofList front, some (String.ofList back)⟩, ?_, ?_⟩
    · rw [← String.toList_inj, toList_canonicalText, toList_canonicalText]
      simp [ending, cut]
    · exact fun same => shorter (by rw [same, String.toList_ofList])
  | some y =>
    obtain ⟨front, back, cut, shorter⟩ := exists_front_of_seam (length_quoteBefore_le _) held
    have moved := append_seam_of_cut cut
    refine ⟨⟨alg, kty, crv, d, String.ofList front,
      some (String.ofList (back ++ (seam "y").tail ++ y.toList))⟩, ?_, ?_⟩
    · rw [← String.toList_inj, toList_canonicalText, toList_canonicalText]
      simp only [ending, String.toList_ofList, List.append_assoc] at moved ⊢
      rw [moved]
    · exact fun same => shorter (by rw [same, String.toList_ofList])

/-- Undivided keys are told apart by their texts. A key that is not undivided shares its text with
a key that has other members. -/
theorem canonicalText_identifies_undivided (key : Jwk) :
    (key.Undivided → ∀ other : Jwk, other.Undivided →
      (key.canonicalText = other.canonicalText ↔ key.SameMembers other)) ∧
    (¬ key.Undivided → ∃ other : Jwk,
      key.canonicalText = other.canonicalText ∧ ¬ key.SameMembers other) := by
  constructor
  · intro first other second
    exact ⟨first.sameMembers second, SameMembers.canonicalText_eq⟩
  · intro divided
    by_cases crv : seam "kty" <:+: key.crv.toList ++ ['"']
    · obtain ⟨other, same, differ⟩ := exists_shared_of_crv crv
      exact ⟨other, same, fun members => differ members.1⟩
    by_cases kty : seam "x" <:+: key.kty.toList ++ ['"']
    · obtain ⟨other, same, differ⟩ := exists_shared_of_kty kty
      exact ⟨other, same, fun members => differ members.2.1⟩
    have x : seam "y" <:+: key.x.toList ++ quoteBefore key.y := by
      by_contra x
      exact divided ⟨crv, kty, x⟩
    obtain ⟨other, same, differ⟩ := exists_shared_of_x x
    exact ⟨other, same, fun members => differ members.2.2.1⟩

/-- Quotes and commas alone do no harm, and `y` may hold anything. -/
theorem canonicalText_identifies_undivided_quoted :
    let key : Jwk := ⟨none, "EC", "P-256", none, "AQ\",\"y\":", none⟩
    let other : Jwk := ⟨none, "EC", "P-256", none, "AQ", some "Ag\",\"y\":\""⟩
    let divided : Jwk := ⟨none, "EC", "P-256", none, "AQ\",\"y\":\"Ag", none⟩
    key.canonicalText ≠ other.canonicalText ∧
      ∃ another : Jwk, divided.canonicalText = another.canonicalText ∧
        ¬ divided.SameMembers another := by
  intro key other divided
  have first : key.Undivided := by decide
  have second : other.Undivided := by decide
  have held : ¬ divided.Undivided := by decide
  refine ⟨fun same => ?_, (canonicalText_identifies_undivided divided).2 held⟩
  have members := ((canonicalText_identifies_undivided key).1 first other second).1 same
  exact absurd members (by decide)

/-- One of these keys has a `y` and the other none. -/
theorem canonicalText_shared :
    let key : Jwk := ⟨none, "EC", "P-256", none, "AQ", some "Ag"⟩
    let other : Jwk := ⟨none, "EC", "P-256", none, "AQ\",\"y\":\"Ag", none⟩
    key.canonicalText = other.canonicalText ∧ key.thumbprint = other.thumbprint ∧
      key.x ≠ other.x ∧ key.y ≠ other.y := by
  intro key other
  have same : key.canonicalText = other.canonicalText := by
    rw [← String.toList_inj, toList_canonicalText, toList_canonicalText]
    decide
  refine ⟨same, ?_, by decide, by decide⟩
  rw [thumbprint, thumbprint, same]

end Jwk
end Boundary
