/-!
The contract that bindings and library have to agree on: a namespace, a version, and a checksum
for each entry point.
-/
namespace Boundary

/-- The checksums of entry points, in the order of their names. -/
structure Checksums where
  entries : List (String × Nat)
  sorted : entries.Pairwise (fun a b => a.1 < b.1)
  deriving DecidableEq

namespace Checksums

instance : Repr Checksums := ⟨fun c n => reprPrec c.entries n⟩

def empty : Checksums := ⟨[], .nil⟩

instance : Inhabited Checksums := ⟨empty⟩

/-- The entries with `sum` for `name`. -/
def insertEntry (name : String) (sum : Nat) : List (String × Nat) → List (String × Nat)
  | [] => [(name, sum)]
  | e :: rest =>
    if name < e.1 then (name, sum) :: e :: rest
    else if name = e.1 then (name, sum) :: rest
    else e :: insertEntry name sum rest

theorem mem_insertEntry {name : String} {sum : Nat} {entries : List (String × Nat)}
    {e : String × Nat} (h : e ∈ insertEntry name sum entries) : e = (name, sum) ∨ e ∈ entries := by
  induction entries with
  | nil => simpa [insertEntry] using h
  | cons d rest ih =>
    simp only [insertEntry] at h
    split at h
    · simpa using h
    · split at h
      · rcases List.mem_cons.1 h with h | h
        · exact .inl h
        · exact .inr (.tail _ h)
      · rcases List.mem_cons.1 h with h | h
        · exact .inr (h ▸ .head _)
        · exact (ih h).imp id (.tail _)

theorem sorted_insertEntry (name : String) (sum : Nat) {entries : List (String × Nat)}
    (h : entries.Pairwise (fun a b => a.1 < b.1)) :
    (insertEntry name sum entries).Pairwise (fun a b => a.1 < b.1) := by
  induction entries with
  | nil => simp [insertEntry]
  | cons d rest ih =>
    have hd := List.pairwise_cons.1 h
    simp only [insertEntry]
    split
    next lt =>
      refine List.pairwise_cons.2 ⟨fun e he => ?_, h⟩
      rcases List.mem_cons.1 he with rfl | he
      · exact lt
      · exact String.lt_trans lt (hd.1 e he)
    next nlt =>
      split
      next eq =>
        refine List.pairwise_cons.2 ⟨fun e he => ?_, hd.2⟩
        exact eq ▸ hd.1 e he
      next ne =>
        refine List.pairwise_cons.2 ⟨fun e he => ?_, ih hd.2⟩
        rcases mem_insertEntry he with rfl | he
        · exact Std.lt_of_le_of_ne (Std.not_lt.1 nlt) (Ne.symm ne)
        · exact hd.1 e he

def insert (name : String) (sum : Nat) (c : Checksums) : Checksums :=
  ⟨insertEntry name sum c.entries, sorted_insertEntry name sum c.sorted⟩

/-- The checksum of each name is that of its last pair. -/
def ofPairs (pairs : List (String × Nat)) : Checksums :=
  pairs.foldl (fun c e => c.insert e.1 e.2) empty

end Checksums

structure Contract where
  space : String
  version : Nat
  checksums : Checksums
  deriving DecidableEq, Repr, Inhabited

namespace Contract

/-- The contract of this version of the bindings. -/
def current : Contract where
  space := "web5"
  version := 24
  checksums := Checksums.ofPairs [
    ("method_signer_sign", 43601),
    ("constructor_inmemorykeymanager_new", 11548),
    ("method_inmemorykeymanager_import_private_jwk", 24698),
    ("method_inmemorykeymanager_get_signer", 36296)]

end Contract
end Boundary
