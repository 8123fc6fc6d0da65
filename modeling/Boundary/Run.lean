import Boundary.Fault
/-!
Runs: programs that change a state and give a value, end in a fault, or end the whole process.

A fault unwinds: what has to be cleaned up on the way is cleaned up. A fault that would leave a
cleanup while another one unwinds ends the process.
-/
namespace Boundary

/-- How a run stops without a value. -/
inductive Stop where
  | fault (f : Fault)
  | abort
  deriving DecidableEq, Repr, Inhabited

abbrev Run (σ α : Type) := EStateM Stop σ α

namespace Run

def raise (f : Fault) : Run σ α := throw (.fault f)

def abort : Run σ α := throw .abort

/-- What was found out without a look at the state. -/
def give : Except Fault α → Run σ α
  | .ok a => return a
  | .error f => raise f

/-- A change that cannot fail. -/
def change (f : σ → α × σ) : Run σ α := fun s =>
  let (a, s) := f s
  .ok a s

/-- What `x` comes to, a fault among the answers. -/
def attempt (x : Run σ α) : Run σ (Except Fault α) := fun s =>
  match x s with
  | .ok a s => .ok (.ok a) s
  | .error (.fault f) s => .ok (.error f) s
  | .error .abort s => .error .abort s

/-- Runs `cleanup` when a fault unwinds. -/
def onFault (x : Run σ α) (cleanup : Run σ Unit) : Run σ α := fun s =>
  match x s with
  | .error (.fault f) s =>
    match cleanup s with
    | .ok _ s => .error (.fault f) s
    | .error _ s => .error .abort s
  | other => other

/-- Runs `cleanup` after `x`, and also when a fault unwinds. -/
def ensuring (x : Run σ α) (cleanup : Run σ Unit) : Run σ α := do
  let a ← onFault x cleanup
  cleanup
  return a

/-- Nothing can unwind out of `x`: a fault ends the process. -/
def noUnwind (x : Run σ α) : Run σ α := fun s =>
  match x s with
  | .error _ s => .error .abort s
  | other => other

end Run
end Boundary
