import Boundary.Wire.Error
/-!
Faults: a call that ends in one gives no answer, since the two sides of the boundary disagree or
an object is used against its rules.
-/
namespace Boundary

inductive Fault where
  | nativePanic (text : String)
  | panicWhilePanicking
  | unknownStatusCode (code : Int)
  /-- An error status from an entry point that declares no error. -/
  | unexpectedError
  | lift (typeName : String) (cause : CodecError)
  /-- The argument of an entry point does not decode. -/
  | argument (typeName : String) (cause : CodecError)
  | namespaceMismatch (expected actual : String)
  | versionMismatch (expected actual : Nat)
  | checksumMismatch (entryPoint : String) (expected actual : Nat)
  | missingChecksum (entryPoint : String)
  | useAfterDestroy (kind : String)
  | callCounterOverflow (kind : String)
  | doubleRelease (kind : String)
  | kindMismatch (expected actual : String)
  | nullObject (kind : String)
  | callbackIdOverflow (kind : String)
  | bufferTooLarge (length : Nat)
  /-- A value has more parts than a length prefix can count. -/
  | oversize (cause : Oversize)
  /-- Code on either side panicked with this text. -/
  | panicked (text : String)
  /-- Code on either side panicked with something that is not a text. -/
  | panickedWithoutText
  deriving DecidableEq, Repr, Inhabited

namespace Fault

def message : Fault → String
  | .nativePanic text => "native core panicked: " ++ text
  | .panicWhilePanicking => "native core panicked while handling a panic"
  | .unknownStatusCode code => s!"unknown call status code: {code}"
  | .unexpectedError => "function not returning an error returned an error"
  | .lift typeName cause =>
    "failed to lift " ++ typeName ++ " from native buffer: " ++ cause.message
  | .argument typeName cause =>
    "failed to lift " ++ typeName ++ " argument: " ++ cause.message
  | .namespaceMismatch expected actual =>
    "namespace mismatch: bindings expect " ++ expected ++ ", library is " ++ actual
  | .versionMismatch expected actual =>
    s!"contract version mismatch: bindings expect {expected}, library reports {actual}"
  | .checksumMismatch entryPoint expected actual =>
    s!"checksum mismatch for {entryPoint}: bindings expect {expected}, library reports {actual}"
  | .missingChecksum entryPoint => "library does not export a checksum for " ++ entryPoint
  | .useAfterDestroy kind => kind ++ " object already destroyed"
  | .callCounterOverflow kind => kind ++ " call counter would overflow"
  | .doubleRelease kind => kind ++ " object released more times than it was acquired"
  | .kindMismatch expected actual => "expected " ++ expected ++ " object, got " ++ actual
  | .nullObject kind => "native core returned a null " ++ kind ++ " object"
  | .callbackIdOverflow kind => kind ++ " callback id space exhausted"
  | .bufferTooLarge length => s!"buffer of {length} bytes is too large to cross the boundary"
  | .oversize cause => cause.message
  | .panicked text => text
  | .panickedWithoutText => ""

end Fault
end Boundary
