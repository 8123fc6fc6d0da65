/-!
Errors of the bridge itself: these can be answered, unlike faults.
-/
namespace Boundary

/-- What host code can lend to the native core. -/
inductive Capability where
  | signer
  | keyManager
  deriving DecidableEq, Repr, Inhabited

namespace Capability

/-- The name of native objects of the kind. -/
def objectName : Capability → String
  | .signer => "Signer"
  | .keyManager => "KeyManager"

/-- The kind in running text. -/
def text : Capability → String
  | .signer => "signer"
  | .keyManager => "key manager"

end Capability

inductive BridgeError where
  | configuration (text : String)
  | registryFull (kind : Capability) (limit : Nat)
  | alreadyInstalled
  | unsupported (what : String)
  /-- A file cannot be read or written. -/
  | io
  deriving DecidableEq, Repr, Inhabited

namespace BridgeError

def message : BridgeError → String
  | .configuration text => "Configuration error: " ++ text
  | .registryFull kind limit => s!"{kind.text} registry is full ({limit} entries)"
  | .alreadyInstalled => "process-wide callbacks are already installed"
  | .unsupported what => "native core does not support " ++ what
  | .io => "input or output failed"

end BridgeError
end Boundary
