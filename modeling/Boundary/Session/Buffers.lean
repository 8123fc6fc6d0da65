import Boundary.Native.Resident
import Boundary.Session.Names
import Boundary.Session.Script
/-!
Sessions with one core: buffers are made, passed on, read and given back one step after the other.
A buffer is kept under a name, either owned, so that it is given back when the name is lost, or
bare.
-/
namespace Boundary
namespace BufferSession

inductive Slot where
  | owned (b : Buffer)
  | bare (b : Buffer)
  deriving DecidableEq, Repr, Inhabited

structure State where
  script : Script
  slots : Names Slot
  deriving Inhabited

/-- One step; `α` is what entry points return in calls of the session's own. -/
inductive Step (α : Type) where
  | lower (v : Value) (slot : String)
  | lowerBytes (b : Bytes) (slot : String)
  | wrap (slot : String)
  | intoBare (slot : String)
  | fromBytes (b : Bytes) (slot : String)
  | drop (slot : String)
  | free (slot : String)
  | freeNull
  | lift (slot : String) (s : Shape)
  /-- Replaces what the script says about the next calls. -/
  | script (allocations reclaims : List Status)
  | call (declares : Option Shape) (reply : Reply α)
  | version
  | checksum (name : String)
  | verify (contract : Contract)

inductive Answer (α : Type) where
  | done
  | owned (b : Buffer)
  | bare (b : Buffer)
  | lifted (s : Shape) (v : Value)
  | returned (a : α)
  | refused (s : Shape) (v : Value)
  | number (n : Option Nat)
  /-- There is no such buffer. -/
  | missing

/-- What a step came to and how often the scripted entry points were called until then. -/
structure Report (α : Type) where
  answer : Except Fault (Answer α)
  allocated : Nat
  reclaimed : Nat
  freed : List Bytes

abbrev Action (α : Type) := Run State α

def modifySlots (f : Names Slot → Names Slot) : Action Unit :=
  modify fun s => { s with slots := f s.slots }

def releaseSlot (core : Core State) : Option Slot → Action Unit
  | some (.owned b) => core.release b
  | _ => return ()

/-- Puts a buffer under a name; an owned one that was there is given back after that. -/
def place (core : Core State) (name : String) (slot : Slot) : Action Unit := do
  let old := (← get).slots.get? name
  modifySlots (.put name slot)
  releaseSlot core old

/-- Takes a bare buffer away from its name. -/
def takeBare (name : String) (use : Buffer → Action (Answer α)) : Action (Answer α) := do
  match (← get).slots.get? name with
  | some (.bare b) => do
    modifySlots (.remove name)
    use b
  | _ => return .missing

def takeOwned (name : String) (use : Buffer → Action (Answer α)) : Action (Answer α) := do
  match (← get).slots.get? name with
  | some (.owned b) => do
    modifySlots (.remove name)
    use b
  | _ => return .missing

def own (core : Core State) (name : String) (b : Buffer) : Action (Answer α) := do
  place core name (.owned b)
  return .owned b

def run (core : Core State) : Step α → Action (Answer α)
  | .lower v slot => do own core slot (← core.lower v)
  | .lowerBytes b slot => do own core slot (← core.lowerBytes b)
  | .wrap slot => takeBare slot fun b => own core slot b
  | .intoBare slot => takeOwned slot fun b => do
    place core slot (.bare b)
    return .bare b
  | .fromBytes b slot => do
    let made ← Run.give (Buffer.ofBytes b)
    place core slot (.bare made)
    return .bare made
  | .drop slot => takeOwned slot fun b => do
    core.release b
    return .done
  | .free slot => takeBare slot fun b => do
    core.freeBuffer b
    return .done
  | .freeNull => do
    core.freeBuffer .null
    return .done
  | .lift slot s => takeBare slot fun b => return .lifted s (← core.lift s b)
  | .script allocations reclaims => do
    modify fun st => { st with script := { st.script with allocations, reclaims } }
    return .done
  | .call none reply => return .returned (← core.call (pure reply))
  | .call (some s) reply => do
    match ← core.callOr s (pure reply) with
    | .ok a => return .returned a
    | .error v => return .refused s v
  | .version => return .number (← core.contractVersion)
  | .checksum name => return .number (← core.checksum name)
  | .verify contract => do
    core.verify contract
    return .done

/-- A step with its report. What came back before the step is not told again. -/
def report (core : Core State) (step : Step α) : Action (Report α) := do
  modify fun s => { s with script := { s.script with freed := [] } }
  let answer ← Run.attempt (run core step)
  let script := (← get).script
  return ⟨answer, script.allocated, script.reclaimed, script.freed⟩

/-- All steps, and what is given back after the last one. -/
def runAll (core : Core State) (steps : List (Step α)) : Action (List (Report α) × Script) := do
  let reports ← steps.mapM (report core)
  modify fun s => { s with script := { s.script with freed := [] } }
  let left := (← get).slots.sorted
  modifySlots fun _ => []
  left.forM fun (_, slot) => do let _ ← Run.attempt (releaseSlot core (some slot))
  return (reports, (← get).script)

def scriptedCore (e : Exports) : Core State :=
  (Core.scripted e).within State.script (fun script s => { s with script }) fun _ _ => rfl

/-- The reports of a session, unless the process ends in it. -/
def outcome (core : Core State) (steps : List (Step α)) : Option (List (Report α) × Script) :=
  match runAll core steps ⟨Script.start, []⟩ with
  | .ok a _ => some a
  | .error _ _ => none

end BufferSession
end Boundary
