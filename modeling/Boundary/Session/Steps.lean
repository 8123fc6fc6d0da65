import Boundary.Bridge.Wrapper
import Boundary.Session.Names
/-!
What can happen in a process, step by step, and what is told about it. Callbacks are described, too:
what they run when they are called and when they end are steps of the same kind.
-/
namespace Boundary
namespace ProcessSession

/-- What a signer of the host does. -/
inductive SignerAct where
  | echo
  /-- Puts bytes before the payload. -/
  | join (before : Bytes)
  | reverse
  | fixed (signature : Bytes)
  | fail (e : DomainError)
  | panic (text : String)
  deriving DecidableEq, Repr, Inhabited

/-- A callback that does `A`, and steps `S` around it. -/
structure Callback (S A : Type) where
  label : Option String
  act : A
  /-- Steps whenever it is called, before it does anything. -/
  script : List S
  /-- Steps when nothing refers to it any more. -/
  onDrop : List S

/-- What a key manager of the host does. -/
inductive KeyManagerAct (S : Type) where
  /-- Gives back keys as they are, and always the same kind of signer. -/
  | echo (signer : Callback S SignerAct)
  /-- Keeps keys. Its signers put the secret of a key before the payload. -/
  | store
  | fail (e : DomainError)
  | panic (text : String)

inductive Lent (S : Type) where
  | signer (c : Callback S SignerAct)
  | keyManager (c : Callback S (KeyManagerAct S))

namespace Lent

def kind : Lent S → Capability
  | .signer _ => .signer
  | .keyManager _ => .keyManager

def label : Lent S → Option String
  | .signer c => c.label
  | .keyManager c => c.label

def onDrop : Lent S → List S
  | .signer c => c.onDrop
  | .keyManager c => c.onDrop

end Lent

/-- How a library makes objects from callbacks. -/
inductive Construction where
  | usual
  | unsupported
  /-- It takes nothing, and reports this. -/
  | refuse (status : Status)
  deriving Repr, Inhabited

/-- What scripted entry points give back for an address. -/
structure Behaviour where
  sign : Reply Buffer
  importKey : Reply Buffer
  signerFor : Reply Nat
  new : Reply Nat
  thumbprint : Reply Buffer
  free : Reply Unit

/-- Nothing but success. -/
def Behaviour.silent : Behaviour :=
  ⟨.success .null, .success .null, .success 0, .success 0, .success .null, .success ()⟩

/-- Which callback an exported entry point is asked for: one by number, or the one that something
in native hands stands for. -/
inductive Target where
  | number (id : Int)
  | table (name : String)
  deriving Repr, Inhabited

/-- An object made by hand. -/
inductive Crafted where
  | signer (id : Int)
  | keyManager (table : KeyManagerVtable)
  deriving Repr, Inhabited

inductive RawEntry where
  | sign
  | importKey
  | signerFor
  | thumbprint
  deriving Repr, Inhabited

inductive Step where
  | register (c : Lent Step)
  /-- Holds the callback under a name, if one is given. -/
  | lookup (kind : Capability) (id : Int) (name : Option String)
  | unregister (kind : Capability) (id : Int)
  | registerHeld (name : String)
  | signHeld (name : String) (payload : Bytes)
  | letGo (name : String)
  | dispatchSign (id : Int) (payload : Bytes)
  | dispatchImport (id : Int) (key : Jwk)
  | dispatchSignerFor (id : Int) (key : Jwk)
  | install (limit : Nat)
  | isInstalled
  | exportedSign (target : Target) (payload : Option Bytes) (hasPlace : Bool)
  | exportedImport (target : Target) (argument : View)
  | exportedSignerFor (target : Target) (argument : View) (name : String)
  /-- Gives back what stands for nothing. -/
  | freeNothing
  | table (name : String) (kind : Capability) (id : Int)
  | freeTable (name : String)
  /-- A key manager of the library, a scripted one if a behaviour is given. -/
  | newKeyManager (name : String) (scripted : Option Behaviour)
  | fromHost (name : String) (c : Lent Step) (construction : Construction)
  | sign (object : String) (payload : Bytes)
  | importKey (object : String) (key : Jwk)
  | signerFor (object : String) (key : Jwk) (name : String)
  | destroy (object : String)
  | drop (object : String)
  | describe (object : String)
  | thumbprint (key : Jwk) (scripted : Option Behaviour)
  /-- An entry point of the library with an argument as it is, on an object with one key. -/
  | rawCall (entry : RawEntry) (argument : Bytes)
  /-- An object from a callback that is missing. -/
  | fromNothing (kind : Capability)
  | craft (name : String) (what : Crafted)
  | adopt (name : String) (kind : Capability) (o : RawObject) (behaviour : Behaviour)
  | behave (address : Nat) (behaviour : Behaviour)

inductive Answer where
  | done
  | flag (b : Bool)
  | number (n : Option Int)
  /-- The number of a signer that a key manager gave. -/
  | issued (n : Option Int)
  | bytes (b : Option Bytes)
  | key (k : Option Jwk)
  | signature (o : SignOutcome)
  | text (s : String)
  | refused (e : DomainError)
  | failed (e : BridgeError)
  /-- There is nothing by the name. -/
  | missing
  deriving DecidableEq, Repr, Inhabited

inductive CallArgument where
  | sign (payload : Bytes)
  | importKey (key : Jwk)
  | signerFor (key : Jwk)
  deriving DecidableEq, Repr, Inhabited

/-- Something that code outside the bridge noticed; `R` tells about a step. -/
inductive Event (R : Type) where
  | called (label : Option String) (argument : CallArgument) (steps : List R)
  | dropped (label : Option String) (steps : List R)
  /-- A scripted entry point ran. -/
  | native (entry : String) (address : Nat) (argument : Bytes)

/-- What a step came to, what was noticed during it, and the callbacks after it. -/
inductive Report where
  | of (answer : Except Fault Answer) (events : List (Event Report)) (callbacks : Option Callbacks)

end ProcessSession
end Boundary
