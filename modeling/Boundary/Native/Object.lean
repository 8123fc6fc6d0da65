import Boundary.Callback.Registry
import Boundary.Native.Buffer
import Boundary.Payload.DomainError
import Boundary.Payload.Jwk
/-!
Objects of a core that lives in the same process: signers and key managers, each with means of its
own or with a callback of the host behind it. Signing is a stand-in for a real signature.
-/
namespace Boundary

/-- What stands for a host key manager in the native core: its number, and how it is asked. -/
structure KeyManagerVtable where
  id : Int
  /-- Answers that are always the same, instead of those of the callback: the buffer for a key, and
  the number of a signer. -/
  answers : Option (Buffer × Option Int)
  deriving DecidableEq, Repr, Inhabited

inductive ResidentSigner where
  | own (key : Jwk)
  | foreign (id : Int)
  deriving DecidableEq, Repr, Inhabited

/-- Private keys by their member `x`. -/
structure KeyStore where
  entries : Keyed String Jwk
  deriving DecidableEq, Repr, Inhabited

inductive ResidentKeyManager where
  | own (keys : KeyStore)
  | foreign (table : KeyManagerVtable)
  deriving DecidableEq, Repr, Inhabited

/-- The bytes that a key signs with. -/
def Jwk.secret (key : Jwk) : Bytes := Bytes.ofText (key.d.getD "")

/-- Combines each byte with the next one of `secret`, which is used again and again. Without a
secret nothing comes out. -/
def scramble (secret payload : Bytes) : Bytes :=
  if secret.isEmpty then []
  else payload.mapIdx fun i b => b ^^^ secret.getD (i % secret.length) 0

namespace KeyStore

def empty : KeyStore := ⟨[]⟩

/-- Takes the place of a key with the same `x`. -/
def put (key : Jwk) (keys : KeyStore) : KeyStore :=
  ⟨keys.entries.put key.x key⟩

def get? (x : String) (keys : KeyStore) : Option Jwk := keys.entries.get? x

@[simp] theorem get?_put (key : Jwk) (keys : KeyStore) (x : String) :
    (keys.put key).get? x = if x = key.x then some key else keys.get? x :=
  Keyed.get?_put ..

/-- The public half of the key, which has to be private, and the keys with it. -/
def importKey (key : Jwk) (keys : KeyStore) : Except DomainError (Jwk × KeyStore) :=
  if key.secret.isEmpty then
    .error ⟨"Jwk", "MissingPrivateKey", "private key material (d) must be present"⟩
  else .ok (key.toPublic, keys.put key)

def signerFor (key : Jwk) (keys : KeyStore) : Except DomainError ResidentSigner :=
  match keys.get? key.x with
  | some found => .ok (.own found)
  | none => .error ⟨"KeyManager", "NotFound", "no private key for x=" ++ key.x⟩

end KeyStore

inductive ResidentObject where
  | signer (s : ResidentSigner)
  | keyManager (m : ResidentKeyManager)
  deriving DecidableEq, Repr, Inhabited

/-- Objects by address. No address is used twice, and none is the null address. -/
structure ResidentObjects where
  lastAddress : Nat
  entries : Keyed Nat ResidentObject
  deriving DecidableEq, Repr, Inhabited

namespace ResidentObjects

def empty : ResidentObjects := ⟨0, []⟩

def get? (address : Nat) (objects : ResidentObjects) : Option ResidentObject :=
  objects.entries.get? address

def add (o : ResidentObject) (objects : ResidentObjects) : Nat × ResidentObjects :=
  let address := objects.lastAddress + 1
  (address, ⟨address, objects.entries.put address o⟩)

def replace (address : Nat) (o : ResidentObject) (objects : ResidentObjects) : ResidentObjects :=
  { objects with entries := objects.entries.put address o }

def remove (address : Nat) (objects : ResidentObjects) : ResidentObjects :=
  { objects with entries := objects.entries.remove address }

@[simp] theorem get?_add (o : ResidentObject) (objects : ResidentObjects) (address : Nat) :
    (objects.add o).2.get? address =
      if address = objects.lastAddress + 1 then some o else objects.get? address :=
  Keyed.get?_put ..

@[simp] theorem get?_replace (address other : Nat) (o : ResidentObject)
    (objects : ResidentObjects) : (objects.replace address o).get? other =
      if other = address then some o else objects.get? other :=
  Keyed.get?_put ..

@[simp] theorem get?_remove (address other : Nat) (objects : ResidentObjects) :
    (objects.remove address).get? other =
      if other = address then none else objects.get? other :=
  Keyed.get?_remove ..

end ResidentObjects
end Boundary
