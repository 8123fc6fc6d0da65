import Boundary.Contract
import Boundary.Native.Status
import Boundary.Run
import Boundary.Text.Quoted
import Boundary.Wire.Typed
/-!
The native core and calls to it.

Every entry point reports a status. The payload of a status belongs to the caller, who gives it
back: giving back is a call too, with a status of its own. What a payload says is read before it
is given back. A status with an unknown code says nothing, and its payload is left alone.
-/
namespace Boundary

/-- What an entry point gives back. The value means nothing unless the status is success. -/
structure Reply (α : Type) where
  status : Status
  value : α
  deriving Inhabited

namespace Reply

def success (a : α) : Reply α := ⟨Status.initial, a⟩

end Reply

/-- The entry points for buffers and for the contract, on a state `σ`.

Giving a buffer back may report a payload only finitely often in a row; `backlog` bounds how
often. -/
structure Core (σ : Type) where
  space : String
  /-- Copies bytes into a new buffer. -/
  allocate : Bytes → σ → Reply Buffer × σ
  /-- Takes a buffer back. -/
  reclaim : Buffer → σ → Status × σ
  version : σ → Reply Nat × σ
  /-- Of several entry points for one name the last counts. -/
  checksums : List (String × (σ → Reply Nat × σ))
  backlog : σ → Nat
  backlog_reclaim : ∀ b s, (reclaim b s).1.payload ≠ .null →
    backlog (reclaim b s).2 < backlog s

namespace Core

/-- The text in a buffer. -/
def textOf (b : Buffer) : Except CodecError String := Wire.lift String b.content

/-- What a status means for a call that declares no error, where `release` gives payloads back. -/
def settle (release : Buffer → Run σ Unit) (status : Status) : Run σ Unit :=
  match status.code? with
  | none => Run.raise (.unknownStatusCode status.code)
  | some .success => release status.payload
  | some .error => do
    release status.payload
    Run.raise .unexpectedError
  | some .panic =>
    if status.payload.isEmpty then do
      release status.payload
      Run.raise .panicWhilePanicking
    else
      match textOf status.payload with
      | .ok text => do
        release status.payload
        Run.raise (.nativePanic text)
      | .error e =>
        Run.onFault (Run.raise (.lift (Wire.shape String).fullName e)) (release status.payload)

/-- Gives a buffer back, and then the payloads that this brings up, `fuel` of them at most. -/
def freeWithin (core : Core σ) : (fuel : Nat) → Buffer → Run σ Unit
  | 0, b => do let _ ← Run.change (core.reclaim b)
  | fuel + 1, b => do
    let status ← Run.change (core.reclaim b)
    settle (fun p => if p.isNull then return () else freeWithin core fuel p) status

/-- Gives a buffer back, also the null buffer. -/
def freeBuffer (core : Core σ) (b : Buffer) : Run σ Unit := fun s =>
  freeWithin core (core.backlog s + 1) b s

/-- Gives a buffer back that is owned; the null buffer needs no giving back. -/
def release (core : Core σ) (b : Buffer) : Run σ Unit :=
  if b.isNull then return () else core.freeBuffer b

/-- A call to an entry point that declares no error. -/
def call (core : Core σ) (entry : Run σ (Reply α)) : Run σ α := do
  let reply ← entry
  settle core.release reply.status
  return reply.value

/-- The value of shape `s` in a buffer, which is given back. -/
def lift (core : Core σ) (s : Shape) (b : Buffer) : Run σ Value :=
  match s.lift b.content with
  | .ok v => do
    core.release b
    return v
  | .error e => Run.onFault (Run.raise (.lift s.fullName e)) (core.release b)

/-- A call to an entry point that declares errors of shape `s`. -/
def callOr (core : Core σ) (s : Shape) (entry : Run σ (Reply α)) : Run σ (Except Value α) := do
  let reply ← entry
  match reply.status.code? with
  | some .error => return .error (← core.lift s reply.status.payload)
  | _ => do
    settle core.release reply.status
    return .ok reply.value

/-- A buffer of the core with these bytes. No bytes need no buffer. -/
def lowerBytes (core : Core σ) (b : Bytes) : Run σ Buffer :=
  if b.isEmpty then return .null
  else
    match View.ofBytes b with
    | .error f => Run.raise f
    | .ok view => core.call (Run.change (core.allocate view.bytes))

/-- A buffer of the core with the encoding of `v`. -/
def lower (core : Core σ) (v : Value) : Run σ Buffer :=
  match v.lower with
  | .error e => Run.raise (.oversize e)
  | .ok b => core.lowerBytes b

def contractVersion (core : Core σ) : Run σ Nat := core.call (Run.change core.version)

/-- The checksum of an entry point, if the core exports one. -/
def checksum (core : Core σ) (name : String) : Run σ (Option Nat) :=
  match core.checksums.reverse.lookup name with
  | none => return none
  | some entry => return some (← core.call (Run.change entry))

/-- Compares a checksum with the exported one. -/
def verifyChecksum (core : Core σ) (name : String) (expected : Nat) : Run σ Unit := do
  match ← core.checksum name with
  | none => Run.raise (.missingChecksum name)
  | some actual =>
    if actual = expected then return ()
    else Run.raise (.checksumMismatch name expected actual)

/-- Faults at the first point where the core does not keep the contract: the namespace, the
version, then the checksums in the order of their names. -/
def verify (core : Core σ) (contract : Contract) : Run σ Unit := do
  if core.space ≠ contract.space then
    Run.raise (.namespaceMismatch contract.space core.space)
  let actual ← core.contractVersion
  if actual ≠ contract.version then
    Run.raise (.versionMismatch contract.version actual)
  contract.checksums.entries.forM fun (name, expected) => core.verifyChecksum name expected

/-- The names of the exported checksums in order, each once. -/
def checksumNames (core : Core σ) : List String :=
  (Checksums.ofPairs (core.checksums.map fun e => (e.1, 0))).entries.map (·.1)

def describe (core : Core σ) : String :=
  "NativeCore \x7b namespace: " ++ quotedText core.space ++ ", checksums: ["
    ++ ", ".intercalate (core.checksumNames.map quotedText) ++ "] \x7d"

end Core
end Boundary
