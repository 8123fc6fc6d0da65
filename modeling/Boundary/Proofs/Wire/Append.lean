import Boundary.Proofs.Wire.Holds

/-!
Writing into a buffer that already holds something. The parts of a value go to the end of the
buffer one by one; what comes out is the encoding of the value behind the former content.
-/
namespace Boundary

def appendLength (what : String) (n : Nat) (buffer : Bytes) : Except Oversize Bytes :=
  (lengthPrefix? what n).map (buffer ++ ·)

namespace Value

mutual
def append : Value → Bytes → Except Oversize Bytes
  | .int t n, buffer => .ok (buffer ++ Bytes.ofInt t.width n)
  | .float t bits, buffer => .ok (buffer ++ Bytes.ofNat t.width bits)
  | .bool b, buffer => .ok (buffer ++ [if b then 1 else 0])
  | .text s, buffer => do
    return (← appendLength "string" (Bytes.ofText s).length buffer) ++ Bytes.ofText s
  | .bytes b, buffer => do return (← appendLength "byte array" b.length buffer) ++ b
  | .instant t, buffer =>
    .ok (buffer ++ Bytes.ofInt 8 t.fold.seconds ++ Bytes.ofNat 4 t.fold.nanos)
  | .absent, buffer => .ok (buffer ++ [0])
  | .present v, buffer => append v (buffer ++ [1])
  | .list vs, buffer => do appendAll vs (← appendLength "sequence" vs.length buffer)
  | .map entries, buffer => do appendEntries entries (← appendLength "map" entries.length buffer)
  | .record tag fields, buffer => appendAll fields (buffer ++ tagBytes tag)
  | .variant number, buffer => .ok (buffer ++ Bytes.ofInt 4 number)
def appendAll : List Value → Bytes → Except Oversize Bytes
  | [], buffer => .ok buffer
  | v :: vs, buffer => do appendAll vs (← append v buffer)
def appendEntries : List (Value × Value) → Bytes → Except Oversize Bytes
  | [], buffer => .ok buffer
  | (k, v) :: rest, buffer => do appendEntries rest (← append v (← append k buffer))
end

/-- The bytes, unless something was too long for its prefix. -/
def settled (problem : Option Oversize) (b : Bytes) : Except Oversize Bytes :=
  match problem with
  | none => .ok b
  | some e => .error e

theorem settled_bind {problem other : Option Oversize} {b c : Bytes}
    {next : Bytes → Except Oversize Bytes} (h : next b = settled other c) :
    settled problem b >>= next = settled (problem.or other) c := by
  cases problem with
  | none => exact h
  | some e => rfl

theorem settled_snoc (problem : Option Oversize) (b c : Bytes) :
    (do return (← settled problem b) ++ c) = settled problem (b ++ c) := by
  cases problem <;> rfl

theorem appendLength_eq (what : String) (n : Nat) (buffer : Bytes) :
    appendLength what n buffer = settled (tooLong? what n) (buffer ++ lengthPrefix n) := by
  unfold appendLength lengthPrefix? tooLong?
  split <;> rfl

theorem write_eq_settled (v : Value) : v.write = settled v.oversize? v.encode := by
  unfold write settled
  cases v.oversize? <;> rfl

mutual
theorem append_eq_settled : ∀ (v : Value) (buffer : Bytes),
    v.append buffer = settled v.oversize? (buffer ++ v.encode)
  | .int .., _ | .float .., _ | .bool _, _ | .absent, _ | .variant _, _ => by
    simp [append, oversize?, encode, settled]
  | .instant t, buffer => by simp [append, oversize?, encode, settled]
  | .text s, buffer => by
    rw [append, appendLength_eq, settled_snoc, oversize?, encode, List.append_assoc]
  | .bytes b, buffer => by
    rw [append, appendLength_eq, settled_snoc, oversize?, encode, List.append_assoc]
  | .present v, buffer => by
    rw [append, append_eq_settled v, oversize?, encode]
    simp
  | .list vs, buffer => by
    rw [append, appendLength_eq, oversize?, encode]
    exact settled_bind (by rw [appendAll_eq_settled vs]; simp)
  | .map entries, buffer => by
    rw [append, appendLength_eq, oversize?, encode]
    exact settled_bind (by rw [appendEntries_eq_settled entries]; simp)
  | .record tag fields, buffer => by
    rw [append, appendAll_eq_settled fields, oversize?, encode]
    simp
theorem appendAll_eq_settled : ∀ (vs : List Value) (buffer : Bytes),
    appendAll vs buffer = settled (anyOversize? vs) (buffer ++ encodeAll vs)
  | [], buffer => by simp [appendAll, anyOversize?, encodeAll, settled]
  | v :: vs, buffer => by
    rw [appendAll, append_eq_settled v, anyOversize?, encodeAll]
    exact settled_bind (by rw [appendAll_eq_settled vs]; simp)
theorem appendEntries_eq_settled : ∀ (entries : List (Value × Value)) (buffer : Bytes),
    appendEntries entries buffer = settled (anyEntryOversize? entries)
      (buffer ++ encodeEntries entries)
  | [], buffer => by simp [appendEntries, anyEntryOversize?, encodeEntries, settled]
  | (k, v) :: rest, buffer => by
    rw [appendEntries, append_eq_settled k, anyEntryOversize?, encodeEntries]
    refine settled_bind ?_
    rw [append_eq_settled v]
    exact settled_bind (by rw [appendEntries_eq_settled rest]; simp)
end

/-- Appending leaves the former content in front, and adds what is written into an empty buffer. -/
theorem append_eq_write (v : Value) (buffer : Bytes) :
    v.append buffer = v.write.map (buffer ++ ·) := by
  rw [append_eq_settled, write_eq_settled]
  cases v.oversize? <;> rfl

mutual
theorem oversize?_eq_none : ∀ {v : Value}, v.Portable → v.oversize? = none
  | .int .., _ | .float .., _ | .bool _, _ | .instant _, _ | .absent, _ | .variant _, _ => rfl
  | .text s, portable => by
    have fits : (Bytes.ofText s).length ≤ maxLength := portable.length_le
    simp [oversize?, tooLong?, fits]
  | .bytes b, portable => by
    have fits : b.length ≤ maxLength := portable.length_le
    simp [oversize?, tooLong?, fits]
  | .present v, portable => by
    rw [oversize?]
    exact oversize?_eq_none (portable.child List.mem_cons_self)
  | .list vs, portable => by
    have fits : vs.length ≤ maxLength := portable.length_le
    rw [oversize?, anyOversize?_eq_none fun v (member : v ∈ vs) => portable.child member]
    simp [tooLong?, fits]
  | .map entries, portable => by
    have fits : entries.length ≤ maxLength := portable.length_le
    rw [oversize?, anyEntryOversize?_eq_none fun e member =>
      ⟨portable.child (key_mem_children member), portable.child (entry_mem_children member)⟩]
    simp [tooLong?, fits]
  | .record tag fields, portable => by
    rw [oversize?]
    exact anyOversize?_eq_none fun v member => portable.child member
theorem anyOversize?_eq_none : ∀ {vs : List Value}, (∀ v ∈ vs, v.Portable) →
    anyOversize? vs = none
  | [], _ => rfl
  | v :: vs, portable => by
    rw [anyOversize?, oversize?_eq_none (portable v (.head _)),
      anyOversize?_eq_none fun w member => portable w (.tail _ member)]
    rfl
theorem anyEntryOversize?_eq_none : ∀ {entries : List (Value × Value)},
    (∀ e ∈ entries, e.1.Portable ∧ e.2.Portable) → anyEntryOversize? entries = none
  | [], _ => rfl
  | (k, v) :: rest, portable => by
    have here := portable (k, v) (.head _)
    rw [anyEntryOversize?, oversize?_eq_none here.1, oversize?_eq_none here.2,
      anyEntryOversize?_eq_none fun e member => portable e (.tail _ member)]
    rfl
end

theorem write_of_portable {v : Value} (portable : v.Portable) : v.write = .ok v.encode := by
  rw [write_eq_settled, oversize?_eq_none portable]
  rfl

end Value
end Boundary
