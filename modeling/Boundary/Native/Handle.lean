import Boundary.Error
import Boundary.Fault
import Boundary.Run
/-!
Handles: each owns one object of the native core.

A counter holds the calls in flight, less one once the owner has given the object up. Whoever
brings it to -1 frees the object, and from then on no call can start.
-/
namespace Boundary

/-- The address of an object with the kind of the entry point that it came from. -/
structure RawObject where
  kind : Capability
  address : Nat
  deriving DecidableEq, Repr, Inhabited

namespace RawObject

def isNull (o : RawObject) : Bool := o.address = 0

end RawObject

def addressText (address : Nat) : String := "0x" ++ String.ofList (Nat.toDigits 16 address)

def RawObject.describe (o : RawObject) : String :=
  o.kind.objectName ++ "(" ++ addressText o.address ++ ")"

structure Handle where
  kind : Capability
  address : Nat
  counter : Int
  destroyed : Bool
  deriving DecidableEq, Repr, Inhabited

namespace Handle

/-- The counter of an object that is free. -/
def released : Int := -1

/-- No more calls can be counted. -/
def maxCounter : Int := 9223372036854775807

/-- What is to be done after the counter went down. -/
inductive Release where
  | keep
  | free (address : Nat)
  /-- It went down more often than up. -/
  | excess
  deriving DecidableEq, Repr, Inhabited

def ofRaw (kind : Capability) (o : RawObject) : Except Fault Handle :=
  if o.kind ≠ kind then .error (.kindMismatch kind.objectName o.kind.objectName)
  else if o.isNull then .error (.nullObject kind.objectName)
  else .ok ⟨kind, o.address, 0, false⟩

/-- Starts a call, unless the object has been given up. -/
def tryAcquire (h : Handle) : Except Fault (Option Handle) :=
  if h.destroyed ∨ h.counter ≤ released then .ok none
  else if h.counter = maxCounter then .error (.callCounterOverflow h.kind.objectName)
  else .ok (some { h with counter := h.counter + 1 })

/-- Ends a call. -/
def release (h : Handle) : Release × Handle :=
  let counter := h.counter - 1
  (if counter = released then .free h.address else if counter < released then .excess else .keep,
    { h with counter := counter })

/-- Gives the object up. Only the first time has an effect. -/
def destroy (h : Handle) : Release × Handle :=
  if h.destroyed then (.keep, h)
  else
    let counter := h.counter - 1
    (if counter = released then .free h.address else .keep, { h with counter, destroyed := true })

def isReleased (h : Handle) : Bool := h.counter = released

/-- The calls in flight. -/
def inFlight (h : Handle) : Int := if h.destroyed then h.counter + 1 else h.counter

def describe (h : Handle) : String :=
  "Handle \x7b kind: \"" ++ h.kind.objectName ++ "\", address: " ++ addressText h.address
    ++ s!", inflight: {h.counter}, destroyed: {h.destroyed} " ++ "\x7d"

/-- Where a state holds a handle, and how its object is freed. -/
structure Place (σ : Type) where
  read : σ → Handle
  write : Handle → σ → σ
  free : Nat → Run σ Unit

namespace Place

def finish (p : Place σ) (change : Handle → Release × Handle) : Run σ Unit := do
  let (next, h) := change (p.read (← get))
  modify (p.write h)
  match next with
  | .keep => return ()
  | .free address => p.free address
  | .excess => Run.raise (.doubleRelease h.kind.objectName)

def release (p : Place σ) : Run σ Unit := p.finish Handle.release

def destroy (p : Place σ) : Run σ Unit := p.finish Handle.destroy

/-- The address of the object for a call that starts, if one can. -/
def tryAcquire (p : Place σ) : Run σ (Option Nat) := do
  match (p.read (← get)).tryAcquire with
  | .error f => Run.raise f
  | .ok none => return none
  | .ok (some h) => do
    modify (p.write h)
    return some h.address

def acquire (p : Place σ) : Run σ Nat := do
  match ← p.tryAcquire with
  | some address => return address
  | none => Run.raise (.useAfterDestroy (p.read (← get)).kind.objectName)

/-- A call on the object, which ends when `body` does. -/
def during (p : Place σ) (body : Nat → Run σ α) : Run σ α := do
  let address ← p.acquire
  Run.ensuring (body address) p.release

end Place
end Handle
end Boundary
