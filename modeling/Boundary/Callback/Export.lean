import Boundary.Callback.Process
import Boundary.Native.Buffer
/-!
What is exported to the native core so that it can call callbacks by number. No fault gets out into
native code: the process ends instead.
-/
namespace Boundary

/-- What comes out of the exported way to sign: the signature, and the length that is stored if
there is a place for it. -/
structure SignOutcome where
  signature : Option Bytes
  length : Option Nat
  deriving DecidableEq, Repr, Inhabited

namespace SignOutcome

def unavailable : SignOutcome := ⟨none, some 0⟩

def ofSignature : Option Bytes → SignOutcome
  | none => unavailable
  | some b => ⟨some b, some b.length⟩

end SignOutcome

namespace Host

/-- Signs a payload; without one, no bytes are signed. Nothing happens if there is no place for the
length. -/
def exportedSign (host : Host H) (id : Int) (payload : Option Bytes) (hasPlace : Bool) :
    Run (Process H) SignOutcome :=
  Run.noUnwind do
    if hasPlace then
      if (← get).callbacks.isNone then return .unavailable
      return .ofSignature (← host.dispatchSign id (payload.getD []))
    else return ⟨none, none⟩

/-- The key that is lent as its encoding. -/
def lentKey (argument : View) : Run σ Jwk :=
  match Wire.lift Jwk argument.bytes with
  | .ok key => return key
  | .error e => Run.raise (.lift (Wire.shape Jwk).fullName e)

/-- The encoding of the public key, or the null buffer. -/
def exportedImport (host : Host H) (id : Int) (argument : View) : Run (Process H) Buffer :=
  Run.noUnwind do
    if (← get).callbacks.isNone then return .null
    match ← host.dispatchImport id (← lentKey argument) with
    | none => return .null
    | some key => Run.give (Buffer.encoding key)

/-- The number of a signer that is registered for this. -/
def exportedSignerFor (host : Host H) (id : Int) (argument : View) :
    Run (Process H) (Option Int) :=
  Run.noUnwind do
    if (← get).callbacks.isNone then return none
    host.dispatchSignerFor id (← lentKey argument)

/-- Gives back what stands for a callback in the native core, which ends the registration. -/
def exportedFree (host : Host H) (kind : Capability) (id : Int) : Run (Process H) Unit :=
  Run.noUnwind do let _ ← host.unregister kind id

end Host
end Boundary
