import Boundary.Native.Core
import Boundary.Payload.DomainError
/-!
Entry points as the native core writes them: a body that gives a value or a domain error, and a
status that says which. Nothing else gets out of an entry point: a fault in the body becomes a
status, too. Only the body is watched for faults. What it comes to is put into a buffer after that,
and if there is no buffer for it, the process ends.
-/
namespace Boundary
namespace Entry

/-- The argument in a buffer. -/
def argument (α : Type) [Wire α] (b : Buffer) : Run σ α :=
  match Wire.lift α b.content with
  | .ok a => return a
  | .error e => Run.raise (.argument (Wire.shape α).fullName e)

/-- A buffer with the encoding of a result. -/
def result [Wire α] (a : α) : Run σ Buffer := Run.give (Buffer.encoding a)

/-- A payload that tells about a fault. -/
def faultPayload (f : Fault) : Except Fault Buffer := Buffer.ofContent (Bytes.ofText f.message)

/-- Runs the body of an entry point. Unless it succeeds, the value is `placeholder`. -/
def enter (placeholder : α) (body : Run σ (Except DomainError α)) : Run σ (Reply α) := do
  match ← Run.attempt body with
  | .ok (.ok a) => return .success a
  | .ok (.error e) =>
    match Buffer.encoding e with
    | .ok b => return ⟨Status.initial.setError b, placeholder⟩
    | .error _ => Run.abort
  | .error f =>
    match faultPayload f with
    | .ok b => return ⟨Status.initial.setPanic b, placeholder⟩
    | .error _ => Run.abort

end Entry
end Boundary
