import Boundary.Payload.DomainError
import Boundary.Payload.Jwk
import Boundary.Proofs.Wire.RoundTrip
/-!
Types whose values come back as they are. What a type has to promise is that its values are of its
shape, hold no leap second and can be told from their form; that nothing in them is too long is the
writer's to find out.
-/
namespace Boundary
namespace Value

theorem tooLong?_eq_none_iff {what : String} {n : Nat} :
    tooLong? what n = none ↔ n ≤ maxLength := by
  unfold tooLong?
  split <;> simp [*]

theorem anyOversize?_eq_none_iff {vs : List Value} :
    anyOversize? vs = none ↔ ∀ v ∈ vs, v.oversize? = none := by
  induction vs with
  | nil => simp [anyOversize?]
  | cons v vs ih => rw [anyOversize?, Option.or_eq_none_iff, ih, List.forall_mem_cons]

theorem anyEntryOversize?_eq_none_iff {entries : List (Value × Value)} :
    anyEntryOversize? entries = none ↔
      ∀ e ∈ entries, e.1.oversize? = none ∧ e.2.oversize? = none := by
  induction entries with
  | nil => simp [anyEntryOversize?]
  | cons e rest ih =>
    rw [anyEntryOversize?, Option.or_eq_none_iff, Option.or_eq_none_iff, ih, List.forall_mem_cons,
      and_assoc]

theorem lower_of_text_or_fits (v : Value) : (∃ t, v = .text t) ∨ v.lower = v.write := by
  cases v with
  | text t => exact .inl ⟨t, rfl⟩
  | _ => exact .inr rfl

theorem fits_of_write {v : Value} {b : Bytes} (written : v.write = .ok b) :
    v.oversize? = none := by
  unfold write at written
  split at written
  · cases written
  next fits => exact fits

theorem write_of_fits {v : Value} (fits : v.oversize? = none) : v.write = .ok v.encode := by
  unfold write
  rw [fits]

theorem lift_of_lower {s : Shape} {v : Value} {b : Bytes} (formed : s.WellFormed 0 0)
    (holds : Shape.Holds [] s v) (portable : v.oversize? = none → v.Portable)
    (written : v.lower = .ok b) : s.lift b = .ok v := by
  rcases lower_of_text_or_fits v with ⟨t, rfl⟩ | plain
  · cases holds with
    | text =>
      cases written
      exact (Shape.lift_lower_text t).2
    | again found => simp at found
  · have fits := fits_of_write (plain.symm.trans written)
    obtain ⟨whole, lower, lift⟩ := Shape.lift_lower formed holds (portable fits)
    rw [written] at lower
    cases lower
    exact lift

end Value

namespace Wire
variable {α : Type} [Wire α]

structure Faithful (α : Type) [Wire α] : Prop where
  formed : ∀ opened enclosing, (shape α).WellFormed opened enclosing
  holds : ∀ (enclosing : List Shape) (a : α), Shape.Holds enclosing (shape α) (toValue a)
  portable : ∀ a : α, (toValue a).oversize? = none → (toValue a).Portable
  ofValue_toValue : ∀ a : α, ofValue (toValue a) = a

theorem Faithful.lift_eq (faithful : Faithful α) {a : α} {b : Bytes} (written : lower a = .ok b) :
    (shape α).lift b = .ok (toValue a) :=
  Value.lift_of_lower (faithful.formed 0 0) (faithful.holds [] a) (faithful.portable a) written

/-- What is written comes back. -/
theorem Faithful.lift_of_lower (faithful : Faithful α) {a : α} {b : Bytes}
    (written : lower a = .ok b) : lift α b = .ok a := by
  unfold lift
  rw [faithful.lift_eq written, Except.map, faithful.ofValue_toValue]

theorem faithful_text : Faithful String where
  formed _ _ := trivial
  holds _ text := .text text
  portable _ fits := (Value.portable_cases _).2 (Value.tooLong?_eq_none_iff.1 fits)
  ofValue_toValue _ := rfl

theorem faithful_bytes : Faithful Bytes where
  formed _ _ := trivial
  holds _ b := .bytes b
  portable _ fits := (Value.portable_cases _).2 (Value.tooLong?_eq_none_iff.1 fits)
  ofValue_toValue _ := rfl

theorem Faithful.option (faithful : Faithful α) : Faithful (Option α) where
  formed := faithful.formed
  holds enclosing a := by
    cases a with
    | none => exact .absent
    | some a => exact .present (faithful.holds enclosing a)
  portable a fits := by
    cases a with
    | none => exact (Value.portable_cases _).2 trivial
    | some a => exact (Value.portable_cases _).2 (faithful.portable a fits)
  ofValue_toValue a := by
    cases a with
    | none => rfl
    | some a => exact congrArg some (faithful.ofValue_toValue a)

theorem Faithful.list (faithful : Faithful α) : Faithful (List α) where
  formed _ enclosing := faithful.formed 0 enclosing
  holds enclosing as := by
    refine .list fun v member => ?_
    obtain ⟨a, -, rfl⟩ := List.mem_map.1 member
    exact faithful.holds enclosing a
  portable as fits := by
    obtain ⟨count, parts⟩ := Option.or_eq_none_iff.1 fits
    refine (Value.portable_cases _).2 ⟨Value.tooLong?_eq_none_iff.1 count, fun v member => ?_⟩
    obtain ⟨a, -, rfl⟩ := List.mem_map.1 member
    exact faithful.portable a (Value.anyOversize?_eq_none_iff.1 parts _ member)
  ofValue_toValue as := by
    change (as.map toValue).map ofValue = as
    have same : ofValue ∘ toValue = (id : α → α) := funext faithful.ofValue_toValue
    rw [List.map_map, same, List.map_id]

theorem portable_record {tag : Option Nat} {fields : List Value}
    (each : ∀ v ∈ fields, v.oversize? = none → v.Portable)
    (fits : (Value.record tag fields).oversize? = none) : (Value.record tag fields).Portable := by
  have parts := Value.anyOversize?_eq_none_iff.1 fits
  exact (Value.portable_cases _).2 fun v mem => each v mem (parts v mem)

theorem faithful_domainError : Faithful DomainError where
  formed _ _ := ⟨trivial, trivial, trivial, trivial⟩
  holds enclosing e := by
    refine .record (by decide) rfl ?_
    simp only [List.zip_cons_cons, List.zip_nil_right, List.forall_mem_cons]
    exact ⟨.text e.type, .text e.variant, .text e.msg, nofun⟩
  portable e := by
    refine portable_record ?_
    simp only [List.forall_mem_cons]
    exact ⟨faithful_text.portable _, faithful_text.portable _, faithful_text.portable _, nofun⟩
  ofValue_toValue _ := rfl

theorem faithful_jwk : Faithful Jwk where
  formed _ _ := ⟨trivial, trivial, trivial, trivial, trivial, trivial, trivial⟩
  holds enclosing key := by
    have option := faithful_text.option.holds (shape Jwk :: enclosing)
    refine .record (by decide) rfl ?_
    simp only [List.zip_cons_cons, List.zip_nil_right, List.forall_mem_cons]
    exact ⟨option key.alg, .text key.kty, .text key.crv, option key.d, .text key.x, option key.y,
      nofun⟩
  portable key := by
    have text := faithful_text.portable
    have option := faithful_text.option.portable
    refine portable_record ?_
    simp only [List.forall_mem_cons]
    exact ⟨option _, text _, text _, option _, text _, option _, nofun⟩
  ofValue_toValue key := by
    have option := faithful_text.option.ofValue_toValue
    change Jwk.mk (ofValue (toValue key.alg)) key.kty key.crv (ofValue (toValue key.d)) key.x
      (ofValue (toValue key.y)) = key
    rw [option, option, option]

end Wire
end Boundary
