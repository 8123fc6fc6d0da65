import Boundary.Native.Handle
import Boundary.Native.Object
/-!
A process: the callbacks that it lends to the native core, the objects of the core, and the handles
that own them.

A callback lives as long as something refers to it: an entry of a registry, or someone who holds it.
-/
namespace Boundary

/-- The identity of a piece of host code that can be lent. -/
abbrev CallbackRef := Nat

structure Callbacks where
  signers : Registry CallbackRef
  keyManagers : Registry CallbackRef
  deriving DecidableEq

namespace Callbacks

/-- No callbacks, with a limit for each kind; 0 stands for no limit. -/
def withLimit (limit : Nat) : Callbacks := ⟨.empty .signer limit, .empty .keyManager limit⟩

def registry (kind : Capability) (c : Callbacks) : Registry CallbackRef :=
  match kind with
  | .signer => c.signers
  | .keyManager => c.keyManagers

def setRegistry (kind : Capability) (r : Registry CallbackRef) (c : Callbacks) : Callbacks :=
  match kind with
  | .signer => { c with signers := r }
  | .keyManager => { c with keyManagers := r }

def refersTo (ref : CallbackRef) (c : Callbacks) : Bool :=
  c.signers.entries.any (·.2 = ref) || c.keyManagers.entries.any (·.2 = ref)

def describe (c : Callbacks) : String :=
  "Callbacks \x7b signers: " ++ c.signers.describe ++ ", key_managers: " ++ c.keyManagers.describe
    ++ " \x7d"

end Callbacks

/-- The state of a process; `H` is what the host code keeps. -/
structure Process (H : Type) where
  /-- The callbacks that can be called from the native core, once they are installed. -/
  callbacks : Option Callbacks
  /-- The callbacks that someone holds, each as often as it is held. -/
  held : List CallbackRef
  objects : ResidentObjects
  handles : List Handle
  host : H

/-- What host code does when it is called. -/
structure Host (H : Type) where
  sign : CallbackRef → Bytes → Run (Process H) (Except DomainError Bytes)
  importKey : CallbackRef → Jwk → Run (Process H) (Except DomainError Jwk)
  /-- A signer that is given back is held for the caller. -/
  signerFor : CallbackRef → Jwk → Run (Process H) (Except DomainError CallbackRef)
  /-- Nothing refers to the callback any more. -/
  dropped : CallbackRef → Run (Process H) Unit

namespace Process

/-- A process in which nothing has happened yet. -/
def start (host : H) : Process H := ⟨none, [], .empty, [], host⟩

def refersTo (ref : CallbackRef) (p : Process H) : Bool :=
  p.held.contains ref || (p.callbacks.map (·.refersTo ref)).getD false

def setHost (f : H → H) : Run (Process H) Unit := modify fun p => { p with host := f p.host }

def hold (ref : CallbackRef) : Run (Process H) Unit :=
  modify fun p => { p with held := ref :: p.held }

/-- Makes the callbacks those that the native core calls. This can be done once. -/
def install (c : Callbacks) : Run (Process H) (Except BridgeError Callbacks) := do
  match (← get).callbacks with
  | some _ => return .error .alreadyInstalled
  | none => do
    modify fun p => { p with callbacks := some c }
    return .ok c

/-- The installed callbacks. If there are none, some without a limit are installed. -/
def installedOrDefault : Run (Process H) Callbacks := do
  match (← get).callbacks with
  | some c => return c
  | none => do
    let c := Callbacks.withLimit 0
    modify fun p => { p with callbacks := some c }
    return c

/-- The callback with the number, which is held from then on. -/
def lookup (kind : Capability) (id : Int) : Run (Process H) (Option CallbackRef) := do
  match (← get).callbacks.bind fun c => (c.registry kind).lookup id with
  | none => return none
  | some ref => do
    hold ref
    return some ref

end Process

namespace Host

/-- Ends a hold on a callback, and the callback with it if that was the last reference. -/
def letGo (host : Host H) (ref : CallbackRef) : Run (Process H) Unit := do
  modify fun p => { p with held := p.held.erase ref }
  if (← get).refersTo ref then return () else host.dropped ref

/-- A hold becomes an entry, or ends if there can be none. -/
def register (host : Host H) (kind : Capability) (ref : CallbackRef) :
    Run (Process H) (Except BridgeError Int) := do
  let callbacks ← Process.installedOrDefault
  match (callbacks.registry kind).register ref with
  | .error f => Run.onFault (Run.raise f) (host.letGo ref)
  | .ok (.error e) => do
    host.letGo ref
    return .error e
  | .ok (.ok (id, r)) => do
    modify fun p =>
      { p with callbacks := some (callbacks.setRegistry kind r), held := p.held.erase ref }
    return .ok id

/-- Whether there was an entry, which is removed. -/
def unregister (host : Host H) (kind : Capability) (id : Int) : Run (Process H) Bool := do
  match (← get).callbacks with
  | none => return false
  | some callbacks =>
    match (callbacks.registry kind).unregister id with
    | none => return false
    | some (ref, r) => do
      modify fun p => { p with callbacks := some (callbacks.setRegistry kind r) }
      Process.hold ref
      host.letGo ref
      return true

/-- What `use` gives for the callback with the number, which is held until then. -/
def dispatch (host : Host H) (kind : Capability) (id : Int)
    (use : CallbackRef → Run (Process H) (Option α)) : Run (Process H) (Option α) := do
  match ← Process.lookup kind id with
  | none => return none
  | some ref => Run.ensuring (use ref) (host.letGo ref)

/-- The signature, unless the signer is gone or fails. -/
def dispatchSign (host : Host H) (id : Int) (payload : Bytes) :
    Run (Process H) (Option Bytes) :=
  host.dispatch .signer id fun ref => return (← host.sign ref payload).toOption

def dispatchImport (host : Host H) (id : Int) (key : Jwk) : Run (Process H) (Option Jwk) :=
  host.dispatch .keyManager id fun ref => return (← host.importKey ref key).toOption

/-- The number of the signer for a key, which is registered. -/
def dispatchSignerFor (host : Host H) (id : Int) (key : Jwk) :
    Run (Process H) (Option Int) :=
  host.dispatch .keyManager id fun ref => do
    match ← host.signerFor ref key with
    | .error _ => return none
    | .ok signer => return (← host.register .signer signer).toOption

end Host
end Boundary
