import Boundary.Native.Handle
import Boundary.Native.Resident
import Boundary.Session.Names
/-!
Sessions with one handle: calls start and end under names, and the owner gives the object up.
-/
namespace Boundary
namespace HandleSession

structure State where
  handle : Handle
  /-- The handle is gone, though calls may be left. -/
  dropped : Bool
  calls : Names Unit
  /-- The addresses that were freed, in order. -/
  freed : List Nat
  /-- What freeing reports next; after that, success. -/
  frees : List Status
  deriving Inhabited

inductive Step where
  | acquire (call : String)
  | tryAcquire (call : String)
  | release (call : String)
  /-- Ends a call and keeps it as if it went on. -/
  | releaseKeeping (call : String)
  /-- A call that ends in a panic. -/
  | panicDuring
  | destroy
  | drop
  deriving Repr, Inhabited

/-- What a step came to, the addresses freed so far, and the handle unless it is gone. -/
structure Report where
  answer : Except Fault (Option Nat)
  freed : List Nat
  handle : Option Handle

abbrev Action (α : Type) := Run State α

/-- Notes the address, and takes the next status as that of a call if `calling`. -/
def free (calling : Bool) (address : Nat) : Action Unit := do
  modify fun s => { s with freed := s.freed ++ [address] }
  if calling then
    Core.resident.call (Run.change fun s =>
      (⟨s.frees.headD Status.initial, ()⟩, { s with frees := s.frees.tail }))

def place (calling : Bool) : Handle.Place State where
  read := State.handle
  write handle s := { s with handle }
  free := free calling

/-- Notes a call that has started. Another one that went on under its name ends after that. -/
def started (p : Handle.Place State) (call : String) (address : Nat) : Action (Option Nat) := do
  let former := (← get).calls.get? call
  modify fun s => { s with calls := s.calls.put call () }
  if former.isSome then p.release
  return some address

def ended (call : String) : Action Unit :=
  modify fun s => { s with calls := s.calls.remove call }

def run (p : Handle.Place State) : Step → Action (Option Nat)
  | .acquire call => do started p call (← p.acquire)
  | .tryAcquire call => do
    match ← p.tryAcquire with
    | some address => started p call address
    | none => return none
  | .release call => do
    if ((← get).calls.get? call).isSome then do
      ended call
      p.release
    return none
  | .releaseKeeping _ => do
    p.release
    return none
  | .panicDuring => p.during fun _ => Run.raise (.panicked "callee failed")
  | .destroy => do
    p.destroy
    return none
  | .drop => do
    modify fun s => { s with dropped := true }
    p.destroy
    return none

def report (p : Handle.Place State) (step : Step) : Action Report := do
  let answer ← Run.attempt (run p step)
  let s ← get
  return ⟨answer, s.freed, if s.dropped then none else some s.handle⟩

/-- Ends the calls that are left, by name, and then gives up the handle. Faults matter only to
calls that were left when the handle was dropped. -/
def close (p : Handle.Place State) : Action Unit := do
  let s ← get
  modify fun s => { s with calls := [] }
  if s.dropped then s.calls.sorted.forM fun _ => p.release
  else do
    s.calls.sorted.forM fun _ => do let _ ← Run.attempt p.release
    let _ ← Run.attempt p.destroy

/-- All steps, and the addresses freed in the end. -/
def runAll (p : Handle.Place State) (steps : List Step) : Action (List Report × List Nat) := do
  let reports ← steps.mapM (report p)
  close p
  return (reports, (← get).freed)

/-- A session with a new handle. `frees` is what the entry point that frees reports, if the handle
has one. -/
def outcome (h : Handle) (frees : Option (List Status)) (steps : List Step) :
    Except Stop (List Report × List Nat) :=
  match runAll (place frees.isSome) steps ⟨h, false, [], [], frees.getD []⟩ with
  | .ok a _ => .ok a
  | .error stop _ => .error stop

end HandleSession
end Boundary
