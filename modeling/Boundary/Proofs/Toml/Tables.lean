import Boundary.Toml.Tree

/-!
Assignments to different keys one after another end up in the table of the header above them, in
their order.
-/
namespace Boundary
namespace Toml
variable {name : String} {v : Toml} {entries : Entries} {pairs : List (String × Toml)}

def assignments (pairs : List (String × Toml)) : List Statement :=
  pairs.map fun e => .assign [] e.1 e.2

def values (pairs : List (String × Toml)) : Entries := pairs.map fun e => (e.1, .value e.2)

theorem assign?_of_fresh (fresh : name ∉ entries.map (·.1)) :
    Entries.assign? [] name v entries = some (entries ++ [(name, .value v)]) := by
  have none : entries.lookup name = none := by
    rw [List.lookup_eq_none_iff]
    intro e mem
    apply bne_iff_ne.2
    rintro rfl
    exact fresh (List.mem_map_of_mem mem)
  rw [Entries.assign?, Entries.at?, none]
  rfl

theorem foldlM_assignments (d : Draft)
    (distinct : (d.current.map (·.1) ++ pairs.map (·.1)).Nodup) :
    (assignments pairs).foldlM Draft.add? d =
      some { d with current := d.current ++ values pairs } := by
  induction pairs generalizing d with
  | nil => simp [assignments, values]
  | cons e pairs ih =>
    have fresh : e.1 ∉ d.current.map (·.1) := by
      intro mem
      exact (List.nodup_append.1 distinct).2.2 e.1 mem e.1 List.mem_cons_self rfl
    have added : d.add? (.assign [] e.1 e.2) =
        some { d with current := d.current ++ [(e.1, .value e.2)] } := by
      rw [Draft.add?, assign?_of_fresh fresh]
      rfl
    have later := ih { d with current := d.current ++ [(e.1, .value e.2)] }
      (by simpa using distinct)
    change (d.add? (.assign [] e.1 e.2)).bind _ = _
    rw [added]
    apply later.trans
    rw [List.append_assoc]
    rfl

theorem entriesToToml_values (pairs : List (String × Toml)) :
    entriesToToml (values pairs) = pairs := by
  induction pairs with
  | nil => rfl
  | cons e pairs ih =>
    change (e.1, e.2) :: entriesToToml (values pairs) = e :: pairs
    rw [ih]

theorem readableEntries_of_mem (each : ∀ e ∈ pairs, e.2.readable = true) :
    readableEntries pairs = true := by
  induction pairs with
  | nil => rfl
  | cons e pairs ih =>
    rw [readableEntries, each e List.mem_cons_self,
      ih fun f mem => each f (List.mem_cons_of_mem e mem)]
    rfl

theorem readable_of_mem (readable : readableEntries pairs = true) :
    ∀ e ∈ pairs, e.2.readable = true := by
  induction pairs with
  | nil => nofun
  | cons e pairs ih =>
    rw [readableEntries, Bool.and_eq_true] at readable
    exact List.forall_mem_cons.2 ⟨readable.1, ih readable.2⟩

end Toml
end Boundary
