import Boundary.Proofs.Wire.Progress

/-!
How deep a record can stand inside itself. It refers back to itself only behind the count of a list
or a map, so that each level has four bytes less to read from than the one around it. What would
stand below the last level that the input has bytes for is never asked.
-/
namespace Boundary
namespace Reader
variable {α β : Type} {bound : Nat} {r other : Reader α}

/-- On inputs shorter than `bound` both readers answer the same. -/
def AlikeBelow (bound : Nat) (r other : Reader α) : Prop :=
  ∀ b : Bytes, b.length < bound → r b = other b

theorem alikeBelow_self (bound : Nat) (r : Reader α) : AlikeBelow bound r r := fun _ _ => rfl

theorem AlikeBelow.mono {less : Nat} (alike : AlikeBelow bound r other) (le : less ≤ bound) :
    AlikeBelow less r other :=
  fun b short => alike b (Nat.lt_of_lt_of_le short le)

/-- Behind what takes `least` bytes, less is left to agree on. -/
theorem AlikeBelow.bind {least : Nat} {next later : α → Reader β} (alike : AlikeBelow bound r other)
    (spends : Spends least r) (rest : ∀ a, AlikeBelow (bound - least) (next a) (later a)) :
    AlikeBelow bound (r >>= next) (other >>= later) := by
  intro b short
  have same := alike b short
  cases answer : r b with
  | error e left => rw [bind_error answer, bind_error (same ▸ answer)]
  | ok a left =>
    have taken := spends.length_le answer
    rw [bind_ok answer, bind_ok (same ▸ answer)]
    exact rest a left (by omega)

theorem AlikeBelow.map (alike : AlikeBelow bound r other) (g : α → β) :
    AlikeBelow bound (do return g (← r)) (do return g (← other)) := by
  intro b short
  have same := alike b short
  cases answer : r b with
  | error e left => rw [bind_error answer, bind_error (same ▸ answer)]
  | ok a left => rw [bind_ok answer, bind_ok (same ▸ answer)]

theorem AlikeBelow.times (alike : AlikeBelow bound r other) (spends : Spends 0 r) (n : Nat) :
    AlikeBelow bound (r.times n) (other.times n) := by
  induction n with
  | zero => exact alikeBelow_self bound _
  | succ n ih => exact alike.bind spends fun a => ih.map (a :: ·)

theorem AlikeBelow.fix {body outer : Reader α → Reader α}
    (spends : ∀ r, Spends 0 r → Spends 0 (body r))
    (step : ∀ r other, Spends 0 r → AlikeBelow bound r other →
      AlikeBelow bound (body r) (outer other)) :
    AlikeBelow bound (fix body) (fix outer) := by
  have levels : ∀ depth, AlikeBelow bound (unroll body depth) (unroll outer depth) := by
    intro depth
    induction depth with
    | zero => exact alikeBelow_self bound _
    | succ depth ih => exact step _ _ (Spends.unroll spends depth) ih
  exact fun b short => levels (b.length + 1) b short

/-- `body` inside itself `depth` times, and `innermost` inside all of them. -/
def nested (body : Reader α → Reader α) (innermost : Reader α) : (depth : Nat) → Reader α
  | 0 => innermost
  | depth + 1 => body (nested body innermost depth)

theorem nested_eq_unroll (body : Reader α → Reader α) (depth more : Nat) :
    nested body (unroll body more) depth = unroll body (depth + more) := by
  induction depth with
  | zero => rw [Nat.zero_add, nested]
  | succ depth ih => rw [nested, ih, Nat.succ_add, unroll]

theorem nested_of_fixed {body : Reader α → Reader α} (fixed : r = body r) (depth : Nat) :
    nested body r depth = r := by
  induction depth with
  | zero => rfl
  | succ depth ih => rw [nested, ih, ← fixed]

/-- Each level takes four bytes before it goes down to the next one. -/
structure Descends (body : Reader α → Reader α) : Prop where
  spends : ∀ r, Spends 0 r → Spends 0 (body r)
  alike : ∀ bound r other, Spends 0 r → AlikeBelow bound r other →
    AlikeBelow (bound + 4) (body r) (body other)

variable {body : Reader α → Reader α} {b : Bytes} {depth : Nat}

theorem Descends.nested_eq (descends : Descends body) (innermost : Reader α)
    (short : b.length < 4 * depth) : nested body innermost depth b = unroll body depth b := by
  have levels : ∀ depth, AlikeBelow (4 * depth) (unroll body depth)
      (nested body innermost depth) := by
    intro depth
    induction depth with
    | zero =>
      intro b short
      exact absurd short (Nat.not_lt_zero _)
    | succ depth ih => exact descends.alike _ _ _ (Spends.unroll descends.spends depth) ih
  exact (levels depth b short).symm

theorem Descends.unroll_eq (descends : Descends body) (more : Nat) (short : b.length < 4 * depth) :
    unroll body (depth + more) b = unroll body depth b := by
  rw [← nested_eq_unroll]
  exact descends.nested_eq _ short

/-- As many levels as the input has bytes for are enough, whatever stands below them. -/
theorem Descends.nested_eq_fix (descends : Descends body) (innermost : Reader α)
    (short : b.length < 4 * depth) : nested body innermost depth b = fix body b := by
  have enough : b.length < 4 * (b.length + 1) := by omega
  calc nested body innermost depth b
      = unroll body depth b := descends.nested_eq innermost short
    _ = unroll body (depth + (b.length + 1)) b := (descends.unroll_eq _ short).symm
    _ = unroll body (b.length + 1 + depth) b := by rw [Nat.add_comm]
    _ = unroll body (b.length + 1) b := descends.unroll_eq _ enough

theorem Descends.unroll_eq_fix (descends : Descends body) (short : b.length < 4 * depth) :
    unroll body depth b = fix body b :=
  (descends.nested_eq stuck short).symm.trans (descends.nested_eq_fix stuck short)

theorem Descends.fix_eq (descends : Descends body) : fix body = body (fix body) := by
  funext b
  -- One level more than `fix` takes for `b` still comes to the same.
  have spends := Spends.unroll descends.spends (b.length + 1)
  have below : AlikeBelow (b.length + 1) (unroll body (b.length + 1)) (fix body) := by
    intro c short
    exact descends.unroll_eq_fix (by omega)
  have enough : b.length < 4 * (b.length + 1 + 1) := by omega
  rw [← descends.unroll_eq_fix enough]
  exact descends.alike _ _ _ spends below b (by omega)

/-- The recursion has one solution. -/
theorem Descends.eq_fix_iff (descends : Descends body) : r = body r ↔ r = fix body := by
  constructor
  · intro fixed
    funext b
    have enough : b.length < 4 * (b.length + 1) := by omega
    rw [← descends.nested_eq_fix r enough, nested_of_fixed fixed]
  · rintro rfl
    exact descends.fix_eq

end Reader

namespace Shape
open Reader

/-- Two readers for each of the records around a shape. The nearest `opened`, which have no count
around the shape yet, agree on four bytes less. -/
structure AlikeAround (opened bound : Nat) (readers others : List (Reader Value)) : Prop where
  spends : ∀ distance, Spends 0 (readers.getD distance stuck)
  alike : ∀ distance, AlikeBelow (if distance < opened then bound - 4 else bound)
    (readers.getD distance stuck) (others.getD distance stuck)

theorem AlikeAround.behind_count {opened bound : Nat} {readers others : List (Reader Value)}
    (around : AlikeAround opened bound readers others) :
    AlikeAround 0 (bound - 4) readers others := by
  refine ⟨around.spends, fun distance => (around.alike distance).mono ?_⟩
  split <;> split <;> omega

theorem AlikeAround.inside {opened bound : Nat} {readers others : List (Reader Value)}
    {this that : Reader Value} (around : AlikeAround opened bound readers others)
    (spends : Spends 0 this) (alike : AlikeBelow (bound - 4) this that) :
    AlikeAround (opened + 1) bound (this :: readers) (that :: others) := by
  refine ⟨spends_inside around.spends spends, fun distance => ?_⟩
  cases distance with
  | zero => exact alike.mono (by simp)
  | succ distance =>
    refine (around.alike distance).mono ?_
    split <;> split <;> omega

mutual
theorem alikeBelow_reader (s : Shape) {opened bound enclosing : Nat}
    {readers others : List (Reader Value)} (formed : s.WellFormed opened enclosing)
    (around : AlikeAround opened bound readers others) :
    AlikeBelow bound (s.reader readers) (s.reader others) := by
  cases s with
  | int t => exact alikeBelow_self bound _
  | float t => exact alikeBelow_self bound _
  | bool => exact alikeBelow_self bound _
  | text => exact alikeBelow_self bound _
  | bytes => exact alikeBelow_self bound _
  | instant => exact alikeBelow_self bound _
  | enum head => exact alikeBelow_self bound _
  | option s =>
    have inner := alikeBelow_reader s formed around
    refine (alikeBelow_self bound byte).bind (spends_byte.mono (Nat.zero_le 1)) fun b => ?_
    split
    · exact alikeBelow_self bound _
    · exact inner.map _
    · exact alikeBelow_self bound _
  | list s =>
    have item := alikeBelow_reader s formed around.behind_count
    have spends := (spends_reader s around.spends).mono (Nat.zero_le _)
    exact (alikeBelow_self bound length).bind spends_length fun n =>
      (item.times spends n).map _
  | map k s =>
    have key := alikeBelow_reader k formed.1 around.behind_count
    have value := alikeBelow_reader s formed.2 around.behind_count
    have spends := (spends_reader k around.spends).mono (Nat.zero_le _)
    have spends' := (spends_reader s around.spends).mono (Nat.zero_le _)
    have entry : AlikeBelow (bound - 4) (do return (← k.reader readers, ← s.reader readers))
        (do return (← k.reader others, ← s.reader others)) :=
      key.bind spends fun found => value.map (Prod.mk found)
    have least : Spends 0 (do return (← k.reader readers, ← s.reader readers)) :=
      spends.bind fun found => spends'.map (Prod.mk found)
    exact (alikeBelow_self bound length).bind spends_length fun n =>
      (entry.times least n).map _
  | record head fields =>
    rw [WellFormed] at formed
    refine AlikeBelow.fix (fun this inner => spends_recordBody around.spends inner head fields)
      fun this that inner alike => ?_
    have parts := alikeBelow_fieldsReader fields formed
      (around.inside inner (alike.mono (Nat.sub_le bound 4)))
    exact (alikeBelow_self bound (tag head)).bind ((spends_tag head).mono (Nat.zero_le _))
      fun _ => parts.map _
  | again distance =>
    -- Well formed, it is behind a count: the readers agree on all of the bound.
    have alike := around.alike distance
    rwa [if_neg (Nat.not_lt.mpr formed.1)] at alike
theorem alikeBelow_fieldsReader (shapes : List Shape) {opened bound enclosing : Nat}
    {readers others : List (Reader Value)}
    (formed : WellFormed.fieldsWellFormed opened enclosing shapes)
    (around : AlikeAround opened bound readers others) :
    AlikeBelow bound (fieldsReader readers shapes) (fieldsReader others shapes) := by
  cases shapes with
  | nil => exact alikeBelow_self bound _
  | cons s shapes =>
    have first := alikeBelow_reader s formed.1 around
    have later := alikeBelow_fieldsReader shapes formed.2 around
    exact first.bind ((spends_reader s around.spends).mono (Nat.zero_le _)) fun v =>
      later.map (v :: ·)
end

/-- The records around stay as they are: only the record itself goes down a level. -/
theorem descends_recordBody {opened enclosing : Nat} {head : RecordHead} {fields : List Shape}
    {readers : List (Reader Value)}
    (formed : (Shape.record head fields).WellFormed opened enclosing)
    (around : ∀ distance, Spends 0 (readers.getD distance stuck)) :
    Descends (recordBody readers head fields) := by
  refine ⟨fun r spends => spends_recordBody around spends head fields, ?_⟩
  intro bound r other spends alike
  rw [WellFormed] at formed
  have start : AlikeAround opened (bound + 4) readers readers :=
    ⟨around, fun _ => alikeBelow_self _ _⟩
  have parts := alikeBelow_fieldsReader fields formed (start.inside spends alike)
  exact (alikeBelow_self _ (tag head)).bind ((spends_tag head).mono (Nat.zero_le _))
    fun _ => parts.map _

end Shape
end Boundary
