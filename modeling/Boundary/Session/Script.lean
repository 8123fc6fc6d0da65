import Boundary.Native.Core
/-!
A core whose buffer entry points report what a script says, and which keeps count of its calls.
-/
namespace Boundary

structure Script where
  /-- What the next calls to `allocate` report; after these, success. -/
  allocations : List Status
  /-- What the next calls to `reclaim` report; after these, success. -/
  reclaims : List Status
  allocated : Nat
  reclaimed : Nat
  /-- The contents of the buffers that came back, in order. -/
  freed : List Bytes
  deriving DecidableEq, Repr, Inhabited

namespace Script

def start : Script := ⟨[], [], 0, 0, []⟩

/-- The next status of a queue. -/
def next (queue : List Status) : Status := queue.headD Status.initial

/-- A call that does not succeed gives the null buffer. -/
def allocate (b : Bytes) (s : Script) : Reply Buffer × Script :=
  let status := next s.allocations
  (⟨status, if status.code = 0 then .copyOf b else .null⟩,
    { s with allocations := s.allocations.tail, allocated := s.allocated + 1 })

def reclaim (b : Buffer) (s : Script) : Status × Script :=
  (next s.reclaims,
    { s with
      reclaims := s.reclaims.tail
      reclaimed := s.reclaimed + 1
      freed := s.freed ++ [b.content] })

theorem backlog_reclaim (b : Buffer) (s : Script) (h : (s.reclaim b).1.payload ≠ .null) :
    (s.reclaim b).2.reclaims.length < s.reclaims.length := by
  cases hs : s.reclaims with
  | nil => simp [reclaim, next, hs, Status.initial] at h
  | cons status rest => simp [reclaim, hs]

end Script

/-- What a scripted core exports. -/
structure Exports where
  space : String
  version : Reply Nat
  checksums : List (String × Reply Nat)
  deriving Inhabited

def Exports.standard : Exports := ⟨"web5", .success 24, []⟩

namespace Core

def scripted (e : Exports) : Core Script where
  space := e.space
  allocate := Script.allocate
  reclaim := Script.reclaim
  version s := (e.version, s)
  checksums := e.checksums.map fun (name, reply) => (name, fun s => (reply, s))
  backlog s := s.reclaims.length
  backlog_reclaim := Script.backlog_reclaim

/-- The core on a part of a larger state. -/
def within (core : Core σ) (get : τ → σ) (set : σ → τ → τ) (get_set : ∀ s t, get (set s t) = s) :
    Core τ where
  space := core.space
  allocate b t :=
    let (reply, s) := core.allocate b (get t)
    (reply, set s t)
  reclaim b t :=
    let (status, s) := core.reclaim b (get t)
    (status, set s t)
  version t :=
    let (reply, s) := core.version (get t)
    (reply, set s t)
  checksums := core.checksums.map fun (name, entry) => (name, fun t =>
    let (reply, s) := entry (get t)
    (reply, set s t))
  backlog t := core.backlog (get t)
  backlog_reclaim b t h := by
    simp only [get_set]
    exact core.backlog_reclaim b (get t) h

end Core
end Boundary
