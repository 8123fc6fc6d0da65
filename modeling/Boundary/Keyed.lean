/-!
Values by key, in the order in which they were put there.
-/
namespace Boundary

abbrev Keyed (κ α : Type) := List (κ × α)

namespace Keyed
variable {κ α : Type} [DecidableEq κ]

def get? (k : κ) (entries : Keyed κ α) : Option α := entries.lookup k

def remove (k : κ) (entries : Keyed κ α) : Keyed κ α := entries.filter (·.1 ≠ k)

/-- A new last entry; what the key had before is gone. -/
def put (k : κ) (a : α) (entries : Keyed κ α) : Keyed κ α := entries.remove k ++ [(k, a)]

@[simp] theorem get?_nil (k : κ) : get? k ([] : Keyed κ α) = none := rfl

theorem get?_cons (k : κ) (e : κ × α) (rest : Keyed κ α) :
    get? k (e :: rest) = if k = e.1 then some e.2 else get? k rest := by
  obtain ⟨l, a⟩ := e
  simp only [get?, List.lookup_cons]
  by_cases h : k = l
  · simp [h]
  · simp [h, beq_false_of_ne h]

theorem get?_append (k : κ) (first rest : Keyed κ α) :
    get? k (first ++ rest) = (get? k first).or (get? k rest) := by
  induction first with
  | nil => simp
  | cons e first ih =>
    simp only [List.cons_append, get?_cons, ih]
    split <;> simp

theorem get?_eq_none_iff {k : κ} {entries : Keyed κ α} :
    get? k entries = none ↔ ∀ e ∈ entries, e.1 ≠ k := by
  induction entries with
  | nil => simp
  | cons e rest ih =>
    simp only [get?_cons, List.forall_mem_cons]
    by_cases h : k = e.1
    · simp [h]
    · simp [h, ih, Ne.symm h]

theorem mem_of_get? {k : κ} {a : α} {entries : Keyed κ α} (h : get? k entries = some a) :
    (k, a) ∈ entries := by
  induction entries with
  | nil => simp at h
  | cons e rest ih =>
    rw [get?_cons] at h
    split at h
    next hk =>
      cases h
      exact hk ▸ .head _
    next => exact .tail _ (ih h)

@[simp] theorem get?_remove (k other : κ) (entries : Keyed κ α) :
    get? other (remove k entries) = if other = k then none else get? other entries := by
  induction entries with
  | nil => simp [remove]
  | cons e rest ih =>
    rw [get?_cons]
    by_cases he : e.1 = k
    · have hr : remove k (e :: rest) = remove k rest := by simp [remove, he]
      rw [hr, ih, he]
      split <;> rfl
    · have hr : remove k (e :: rest) = e :: remove k rest := by simp [remove, he]
      rw [hr, get?_cons, ih]
      by_cases ho : other = e.1
      · simp [ho, he]
      · simp [ho]

@[simp] theorem get?_put (k other : κ) (a : α) (entries : Keyed κ α) :
    get? other (put k a entries) = if other = k then some a else get? other entries := by
  rw [put, get?_append, get?_remove, get?_cons]
  split <;> simp

end Keyed
end Boundary
