import Boundary.Callback.Export
import Boundary.Native.Entry
import Boundary.Native.Library
import Boundary.Native.Resident
import Boundary.Payload.Thumbprint
/-!
The library that lives in the same process. Its objects can have a callback of the host behind them,
which they ask through what is exported for that.
-/
namespace Boundary

/-- The error of an object whose callback does not answer. -/
def DomainError.unavailable (kind : Capability) : DomainError :=
  .host "Unavailable" (kind.text ++ " callback is unavailable")

namespace Resident

def setObjects (objects : ResidentObjects) : Run (Process H) Unit :=
  modify fun p => { p with objects }

/-- The address of a new object. -/
def add (o : ResidentObject) : Run (Process H) Nat := do
  let (address, objects) := (← get).objects.add o
  setObjects objects
  return address

/-- Takes the object away. There has to be one. -/
def take (address : Nat) : Run (Process H) ResidentObject := do
  let objects := (← get).objects
  match objects.get? address with
  | none => Run.abort
  | some o => do
    setObjects (objects.remove address)
    return o

/-- The signer at the address. There has to be one. -/
def signerAt (address : Nat) : Run (Process H) ResidentSigner := do
  match (← get).objects.get? address with
  | some (.signer s) => return s
  | _ => Run.abort

/-- The key manager at the address. There has to be one. -/
def keyManagerAt (address : Nat) : Run (Process H) ResidentKeyManager := do
  match (← get).objects.get? address with
  | some (.keyManager m) => return m
  | _ => Run.abort

def foreignSign (host : Host H) (id : Int) (payload : Bytes) :
    Run (Process H) (Except DomainError Bytes) := do
  match (← host.exportedSign id (some payload) true).signature with
  | none => return .error (.unavailable .signer)
  | some signature => return .ok signature

def sign (host : Host H) (payload : Bytes) :
    ResidentSigner → Run (Process H) (Except DomainError Bytes)
  | .own key => return .ok (scramble key.secret payload)
  | .foreign id => foreignSign host id payload

/-- Lends the encoding of a key. -/
def lend (key : Jwk) : Run σ View :=
  match Wire.lower key with
  | .error e => Run.raise (.oversize e)
  | .ok b =>
    match View.ofBytes b with
    | .error f => Run.raise f
    | .ok view => return view

def foreignImport (host : Host H) (table : KeyManagerVtable) (key : Jwk) :
    Run (Process H) (Except DomainError Jwk) := do
  let view ← lend key
  let answer ← match table.answers with
    | none => host.exportedImport table.id view
    | some (imported, _) => pure imported
  if answer.isNull then return .error (.unavailable .keyManager)
  match Wire.lift Jwk answer.content with
  | .ok key => return .ok key
  | .error e => return .error (.host "InvalidResult" e.message)

def foreignSignerFor (host : Host H) (table : KeyManagerVtable) (key : Jwk) :
    Run (Process H) (Except DomainError ResidentSigner) := do
  let view ← lend key
  let answer ← match table.answers with
    | none => host.exportedSignerFor table.id view
    | some (_, id) => pure id
  match answer with
  | none => return .error (.unavailable .keyManager)
  | some id => return .ok (.foreign id)

def importKey (host : Host H) (address : Nat) (key : Jwk) :
    ResidentKeyManager → Run (Process H) (Except DomainError Jwk)
  | .foreign table => foreignImport host table key
  | .own keys =>
    match keys.importKey key with
    | .error e => return .error e
    | .ok (shown, keys) => do
      setObjects ((← get).objects.replace address (.keyManager (.own keys)))
      return .ok shown

def signerFor (host : Host H) (key : Jwk) :
    ResidentKeyManager → Run (Process H) (Except DomainError ResidentSigner)
  | .own keys => return keys.signerFor key
  | .foreign table => foreignSignerFor host table key

/-- Ends an object; a callback behind it is given back. -/
def free (host : Host H) (address : Nat) : Run (Process H) Unit := do
  match ← take address with
  | .signer (.foreign id) => host.exportedFree .signer id
  | .keyManager (.foreign table) => host.exportedFree .keyManager table.id
  | _ => return ()

/-- An object for a callback, which must not be missing. -/
def fromHost (kind : Capability) (make : α → ResidentObject) (table : Option α) :
    Run (Process H) (Reply Nat) :=
  Entry.enter 0 do
    match table with
    | none => Run.raise (.panicked ("null " ++ kind.text ++ " vtable"))
    | some a => return .ok (← add (make a))

def signerEntries (host : Host H) : SignerEntries (Process H) where
  sign address payload := Entry.enter .null do
    let signer ← signerAt address
    match ← sign host (← Entry.argument Bytes payload) signer with
    | .error e => return .error e
    | .ok signature => return .ok (← Entry.result signature)
  free address := Entry.enter () do return .ok (← free host address)
  fromHost := some (fromHost .signer fun id => .signer (.foreign id))

def keyManagerEntries (host : Host H) : KeyManagerEntries (Process H) where
  new := Entry.enter 0 do return .ok (← add (.keyManager (.own .empty)))
  fromHost := some (fromHost .keyManager fun table => .keyManager (.foreign table))
  importKey address key := Entry.enter .null do
    let manager ← keyManagerAt address
    match ← importKey host address (← Entry.argument Jwk key) manager with
    | .error e => return .error e
    | .ok shown => return .ok (← Entry.result shown)
  signerFor address key := Entry.enter 0 do
    let manager ← keyManagerAt address
    match ← signerFor host (← Entry.argument Jwk key) manager with
    | .error e => return .error e
    | .ok signer => return .ok (← add (.signer signer))
  free address := Entry.enter () do return .ok (← free host address)

def thumbprint (key : Buffer) : Run σ (Reply Buffer) :=
  Entry.enter .null do
    let key ← Entry.argument Jwk key
    return .ok (← Run.give (Buffer.ofBytes (Bytes.ofText key.thumbprint)))

end Resident

/-- The library of the process itself. -/
def Host.library (host : Host H) : Library (Process H) where
  core := Core.resident
  signer := Resident.signerEntries host
  keyManager := Resident.keyManagerEntries host
  thumbprint := Resident.thumbprint

end Boundary
