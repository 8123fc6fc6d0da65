import Boundary.Native.Buffer
/-!
What an entry point of the native core reports about a call: a code, and a payload in a buffer
that belongs to the caller from then on.
-/
namespace Boundary

inductive StatusCode where
  | success
  | error
  | panic
  deriving DecidableEq, Repr, Inhabited

namespace StatusCode

def ofRaw? (code : Int) : Option StatusCode :=
  if code = 0 then some .success
  else if code = 1 then some .error
  else if code = 2 then some .panic
  else none

def raw : StatusCode → Int
  | .success => 0
  | .error => 1
  | .panic => 2

def isSuccess (c : StatusCode) : Bool := c = .success

def name : StatusCode → String
  | .success => "CALL_SUCCESS"
  | .error => "CALL_ERROR"
  | .panic => "CALL_UNEXPECTED_ERROR"

end StatusCode

structure Status where
  code : Int
  payload : Buffer
  deriving DecidableEq, Repr, Inhabited

namespace Status

/-- What the caller prepares, and what stays if the entry point reports nothing. -/
def initial : Status := ⟨0, .null⟩

def code? (s : Status) : Option StatusCode := StatusCode.ofRaw? s.code

def setError (s : Status) (payload : Buffer) : Status := { s with code := 1, payload := payload }

def setPanic (s : Status) (message : Buffer) : Status := { s with code := 2, payload := message }

/-- The payload and what is left when it is taken out. -/
def takePayload (s : Status) : Buffer × Status := (s.payload, { s with payload := .null })

end Status
end Boundary
