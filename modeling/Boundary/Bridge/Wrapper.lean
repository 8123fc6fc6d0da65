import Boundary.Callback.Export
import Boundary.Native.Library
/-!
Native objects as the host sees them: signers and key managers behind a handle each. A method is a
call on the handle: the object lives until the method is over.
-/
namespace Boundary

/-- A handle of a process, by its place in the list. -/
abbrev HandleId := Nat

namespace Library
variable (lib : Library (Process H))

/-- The handle, and how the library frees its object. -/
def place (kind : Capability) (id : HandleId) : Handle.Place (Process H) where
  read p := p.handles.getD id default
  write h p := { p with handles := p.handles.set id h }
  free := lib.freeObject kind

end Library

/-- Takes over an object that an entry point for `kind` gave back. -/
def Process.adopt (kind : Capability) (o : RawObject) : Run (Process H) HandleId :=
  match Handle.ofRaw kind o with
  | .error f => Run.raise f
  | .ok h => Run.change fun p => (p.handles.length, { p with handles := p.handles ++ [h] })

namespace Library
variable (lib : Library (Process H))

/-- A buffer with the encoding of an argument. -/
def lowerArgument [Wire α] (a : α) : Run (Process H) Buffer := lib.core.lower (Wire.toValue a)

def liftResult (α : Type) [Wire α] (b : Buffer) : Run (Process H) α :=
  return Wire.ofValue (← lib.core.lift (Wire.shape α) b)

/-- A call to an entry point that declares domain errors. -/
def callOrError (entry : Run (Process H) (Reply α)) : Run (Process H) (Except DomainError α) :=
  return (← lib.core.callOr (Wire.shape DomainError) entry).mapError Wire.ofValue

/-- A method of the object behind a handle: `argument` crosses over, and `finish` makes something
of what comes back. -/
def method [Wire α] (kind : Capability) (id : HandleId)
    (entry : Nat → Buffer → Run (Process H) (Reply β)) (argument : α)
    (finish : β → Run (Process H) γ) : Run (Process H) (Except DomainError γ) :=
  (lib.place kind id).during fun address => do
    let b ← lib.lowerArgument argument
    match ← lib.callOrError (entry address b) with
    | .error e => return .error e
    | .ok answer => return .ok (← finish answer)

def sign (id : HandleId) (payload : Bytes) : Run (Process H) (Except DomainError Bytes) :=
  lib.method .signer id lib.signer.sign payload (lib.liftResult Bytes)

/-- Stores a private key. Its public half comes back. -/
def importKey (id : HandleId) (key : Jwk) : Run (Process H) (Except DomainError Jwk) :=
  lib.method .keyManager id lib.keyManager.importKey key (lib.liftResult Jwk)

/-- A signer for the private key that belongs to a public one. -/
def signerFor (id : HandleId) (key : Jwk) : Run (Process H) (Except DomainError HandleId) :=
  lib.method .keyManager id lib.keyManager.signerFor key fun address =>
    Process.adopt .signer ⟨.signer, address⟩

/-- Frees the object once no call is in flight. -/
def destroy (kind : Capability) (id : HandleId) : Run (Process H) Unit :=
  (lib.place kind id).destroy

/-- What a constructor gives back, taken over. -/
def construct (kind : Capability) (entry : Run (Process H) (Reply Nat)) :
    Run (Process H) HandleId := do
  let address ← lib.core.call entry
  Process.adopt kind ⟨kind, address⟩

/-- A key manager with keys of its own. -/
def newKeyManager : Run (Process H) HandleId := lib.construct .keyManager lib.keyManager.new

/-- How the library makes an object from a callback, if it can. -/
def fromHostEntry : Capability → Option (Int → Run (Process H) (Reply Nat))
  | .signer => lib.signer.fromHost.map fun make id => make (some id)
  | .keyManager => lib.keyManager.fromHost.map fun make id => make (some ⟨id, none⟩)

/-- A native object for a callback, which is held and is registered now. The registration is the
object's own once there is one; without an object it ends. -/
def fromHost (host : Host H) (kind : Capability) (ref : CallbackRef) :
    Run (Process H) (Except BridgeError HandleId) := do
  match lib.fromHostEntry kind with
  | none => do
    host.letGo ref
    return .error (.unsupported ("host " ++ kind.text ++ "s"))
  | some make =>
    match ← host.register kind ref with
    | .error e => return .error e
    | .ok id =>
      return .ok (← Run.onFault (lib.construct kind (make id)) (host.exportedFree kind id))

def thumbprintOf (key : Jwk) : Run (Process H) String := do
  let b ← lib.lowerArgument key
  lib.liftResult String (← lib.core.call (lib.thumbprint b))

end Library
end Boundary
