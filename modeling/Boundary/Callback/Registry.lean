import Boundary.Error
import Boundary.Fault
import Boundary.Keyed
/-!
Registries of callbacks: the native core cannot hold what the host lends it, so it holds a number
instead. Numbers start at 1, grow by one and are never given out twice.
-/
namespace Boundary

/-- The greatest number there is for a callback. -/
def maxCallbackId : Int := 2147483647

structure Registry (α : Type) where
  kind : Capability
  /-- How many entries there may be at a time; 0 stands for no limit. -/
  limit : Nat
  lastId : Int
  entries : Keyed Int α
  lastId_mem : 0 ≤ lastId ∧ lastId ≤ maxCallbackId
  ascending : entries.Pairwise fun a b => a.1 < b.1
  issued : ∀ e ∈ entries, 1 ≤ e.1 ∧ e.1 ≤ lastId
  deriving DecidableEq

namespace Registry

def empty (kind : Capability) (limit : Nat) : Registry α where
  kind
  limit
  lastId := 0
  entries := []
  lastId_mem := by decide
  ascending := .nil
  issued := by simp

def size (r : Registry α) : Nat := r.entries.length

def isEmpty (r : Registry α) : Bool := r.size = 0

def isFull (r : Registry α) : Bool := 0 < r.limit && r.limit ≤ r.size

/-- The registry with one more entry, under the next number. -/
def add (a : α) (r : Registry α) (h : r.lastId < maxCallbackId) : Registry α :=
  { r with
    lastId := r.lastId + 1
    entries := r.entries ++ [(r.lastId + 1, a)]
    lastId_mem := by have := r.lastId_mem; omega
    ascending := by
      refine List.pairwise_append.2 ⟨r.ascending, List.pairwise_singleton .., ?_⟩
      intro e he d hd
      have := r.issued e he
      rw [List.mem_singleton.1 hd]
      exact Int.lt_add_one_of_le this.2
    issued := by
      intro e he
      have := r.lastId_mem
      rcases List.mem_append.1 he with he | he
      · have := r.issued e he
        omega
      · rw [List.mem_singleton.1 he]
        exact ⟨by omega, Int.le_refl _⟩ }

/-- The number for `a`, and the registry with it. A refusal uses up no number. -/
def register (a : α) (r : Registry α) :
    Except Fault (Except BridgeError (Int × Registry α)) :=
  if r.isFull then .ok (.error (.registryFull r.kind r.limit))
  else if h : r.lastId < maxCallbackId then .ok (.ok (r.lastId + 1, r.add a h))
  else .error (.callbackIdOverflow r.kind.text)

def lookup (id : Int) (r : Registry α) : Option α := r.entries.get? id

def remove (id : Int) (r : Registry α) : Registry α :=
  { r with
    entries := r.entries.remove id
    ascending := r.ascending.filter _
    issued := fun e he => r.issued e (List.mem_filter.1 he).1 }

/-- What was registered under the number, and the registry without it. -/
def unregister (id : Int) (r : Registry α) : Option (α × Registry α) :=
  (r.lookup id).map fun a => (a, r.remove id)

def describe (r : Registry α) : String :=
  "CallbackRegistry \x7b kind: " ++ r.kind.objectName
    ++ s!", last_id: {r.lastId}, registered: {r.size} " ++ "\x7d"

@[simp] theorem size_add (a : α) (r : Registry α) (h : r.lastId < maxCallbackId) :
    (r.add a h).size = r.size + 1 := by simp [add, size]

/-- Numbers after the last one are not in use. -/
theorem lookup_eq_none_of_lastId_lt {id : Int} {r : Registry α} (h : r.lastId < id) :
    r.lookup id = none := by
  refine Keyed.get?_eq_none_iff.2 fun e he => ?_
  have := r.issued e he
  omega

theorem lookup_add (a : α) (r : Registry α) (h : r.lastId < maxCallbackId) (id : Int) :
    (r.add a h).lookup id = if id = r.lastId + 1 then some a else r.lookup id := by
  simp only [lookup, add, Keyed.get?_append, Keyed.get?_cons, Keyed.get?_nil]
  split
  next eq =>
    have none : r.lookup id = none := lookup_eq_none_of_lastId_lt (by omega)
    rw [lookup] at none
    rw [none]
    rfl
  next => simp

@[simp] theorem lookup_remove (id other : Int) (r : Registry α) :
    (r.remove id).lookup other = if other = id then none else r.lookup other :=
  Keyed.get?_remove ..

end Registry
end Boundary
