import Boundary.Wire.Typed
/-!
The room that an encoding takes. It is put piece after piece into a vector, which sets aside more
than it needs when it grows.
-/
namespace Boundary

/-- The room of a vector after `more` bytes have been put behind its `length` bytes. Where they do
not fit in, it doubles at least. -/
def grown (capacity length more : Nat) : Nat :=
  if length + more ≤ capacity then capacity else max 8 (max (2 * capacity) (length + more))

/-- The room after all the pieces have been put behind `length` bytes. -/
def roomAfter (capacity length : Nat) : (pieces : List Bytes) → Nat
  | [] => capacity
  | b :: rest => roomAfter (grown capacity length b.length) (length + b.length) rest

theorem roomAfter_bounds {capacity length : Nat} (pieces : List Bytes) (fits : length ≤ capacity) :
    let whole := length + pieces.flatten.length
    whole ≤ roomAfter capacity length pieces ∧
      roomAfter capacity length pieces ≤ max capacity (max 8 (2 * whole)) := by
  induction pieces generalizing capacity length with
  | nil => exact ⟨fits, Nat.le_max_left ..⟩
  | cons b rest ih =>
    have after : length + b.length ≤ grown capacity length b.length := by
      unfold grown
      split <;> omega
    have most : grown capacity length b.length ≤
        max capacity (max 8 (2 * (length + b.length))) := by
      unfold grown
      split <;> omega
    obtain ⟨low, high⟩ := ih after
    rw [List.flatten_cons, List.length_append, ← Nat.add_assoc]
    refine ⟨low, ?_⟩
    change roomAfter (grown capacity length b.length) (length + b.length) rest ≤ _
    omega

namespace Value

mutual
/-- What is written for a value, piece by piece. -/
def pieces : Value → List Bytes
  | .int t n => [Bytes.ofInt t.width n]
  | .float t bits => [Bytes.ofNat t.width bits]
  | .bool b => [[if b then 1 else 0]]
  | .text s => [lengthPrefix (Bytes.ofText s).length, Bytes.ofText s]
  | .bytes b => [lengthPrefix b.length, b]
  | .instant t => [Bytes.ofInt 8 t.fold.seconds, Bytes.ofNat 4 t.fold.nanos]
  | .absent => [[0]]
  | .present v => [1] :: pieces v
  | .list vs => lengthPrefix vs.length :: piecesAll vs
  | .map entries => lengthPrefix entries.length :: piecesEntries entries
  | .record tag fields => tagBytes tag :: piecesAll fields
  | .variant number => [Bytes.ofInt 4 number]
def piecesAll : List Value → List Bytes
  | [] => []
  | v :: vs => pieces v ++ piecesAll vs
def piecesEntries : List (Value × Value) → List Bytes
  | [] => []
  | (k, v) :: rest => pieces k ++ (pieces v ++ piecesEntries rest)
end

mutual
theorem flatten_pieces (v : Value) : v.pieces.flatten = v.encode := by
  cases v with
  | present v => simp [pieces, encode, flatten_pieces v]
  | list vs => simp [pieces, encode, flatten_piecesAll vs]
  | map entries => simp [pieces, encode, flatten_piecesEntries entries]
  | record tag fields => simp [pieces, encode, flatten_piecesAll fields]
  | _ => simp [pieces, encode]
theorem flatten_piecesAll (vs : List Value) : (piecesAll vs).flatten = encodeAll vs := by
  cases vs with
  | nil => rfl
  | cons v vs => simp [piecesAll, encodeAll, flatten_pieces v, flatten_piecesAll vs]
theorem flatten_piecesEntries (entries : List (Value × Value)) :
    (piecesEntries entries).flatten = encodeEntries entries := by
  cases entries with
  | nil => rfl
  | cons e rest =>
    simp [piecesEntries, encodeEntries, flatten_pieces e.1, flatten_pieces e.2,
      flatten_piecesEntries rest]
end

/-- The room that the encoding as a whole buffer takes. A text by itself is only copied. -/
def room : Value → Nat
  | .text s => (Bytes.ofText s).length
  | v => roomAfter 0 0 v.pieces

theorem room_bounds {v : Value} {b : Bytes} (written : v.lower = .ok b) :
    b.length ≤ v.room ∧ v.room ≤ max 8 (2 * b.length) := by
  by_cases text : ∃ t, v = .text t
  · obtain ⟨t, rfl⟩ := text
    cases written
    change (Bytes.ofText t).length ≤ (Bytes.ofText t).length ∧ (Bytes.ofText t).length ≤ _
    omega
  · have plain : v.write = .ok b ∧ v.room = roomAfter 0 0 v.pieces := by
      cases v with
      | text t => exact absurd ⟨t, rfl⟩ text
      | _ => exact ⟨written, rfl⟩
    have encoded : v.encode = b := by
      have written := plain.1
      unfold write at written
      split at written
      · cases written
      · exact Except.ok.inj written
    have bounds := roomAfter_bounds v.pieces (Nat.le_refl 0)
    rw [flatten_pieces, encoded] at bounds
    rw [plain.2]
    omega

/-- The prefix of a byte string leaves room for little more. -/
theorem room_bytes_le (b : Bytes) : (bytes b).room ≤ max 16 (4 + b.length) := by
  have word : (lengthPrefix b.length).length = 4 := Bytes.length_ofInt 4 _
  have start : (bytes b).room = grown (grown 0 0 4) (0 + 4) b.length := by
    change roomAfter 0 0 [lengthPrefix b.length, b] = _
    simp only [roomAfter, word]
  rw [start]
  change grown 8 4 b.length ≤ _
  unfold grown
  split <;> omega

end Value

namespace Wire

/-- The room that the encoding of `a` as a whole buffer takes. -/
def room [Wire α] (a : α) : Nat := (toValue a).room

end Wire
end Boundary
