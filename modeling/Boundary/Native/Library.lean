import Boundary.Native.Core
import Boundary.Native.Object
/-!
Native libraries: the entry points for objects, beside those for buffers.

Every entry point takes what it is given: the buffers of arguments are its own from then on.
Objects are given by address, and 0 is the address of no object.
-/
namespace Boundary

structure SignerEntries (σ : Type) where
  sign : Nat → Buffer → Run σ (Reply Buffer)
  free : Nat → Run σ (Reply Unit)
  /-- Makes a signer from a callback, or from none at all. Not every library can do so. -/
  fromHost : Option (Option Int → Run σ (Reply Nat))

structure KeyManagerEntries (σ : Type) where
  new : Run σ (Reply Nat)
  fromHost : Option (Option KeyManagerVtable → Run σ (Reply Nat))
  importKey : Nat → Buffer → Run σ (Reply Buffer)
  signerFor : Nat → Buffer → Run σ (Reply Nat)
  free : Nat → Run σ (Reply Unit)

structure Library (σ : Type) where
  core : Core σ
  signer : SignerEntries σ
  keyManager : KeyManagerEntries σ
  thumbprint : Buffer → Run σ (Reply Buffer)

namespace Library

/-- How objects of a kind are freed. -/
def freeObject (lib : Library σ) (kind : Capability) (address : Nat) : Run σ Unit :=
  lib.core.call <|
    match kind with
    | .signer => lib.signer.free address
    | .keyManager => lib.keyManager.free address

end Library
end Boundary
