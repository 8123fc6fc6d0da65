import Boundary.Json.Form
import Boundary.Payload.Credential
import Boundary.Payload.Did
import Boundary.Session.Buffers
import Boundary.Session.Handles
import Boundary.Session.Processes
import Boundary.Settings
import Boundary.Proofs.Wire.Append
import Boundary.Proofs.Wire.Words
import Boundary.Proofs.Wire.Reads
import Boundary.Proofs.Wire.RoundTrip
import Boundary.Proofs.Wire.Orders
import Boundary.Proofs.Wire.Truncation
import Boundary.Proofs.Wire.Causes
import Boundary.Proofs.Wire.Counts
import Boundary.Proofs.Wire.Canonical
import Boundary.Proofs.Native.Calls
import Boundary.Proofs.Native.Lifetime
import Boundary.Proofs.Native.FreedOnce
import Boundary.Proofs.Callback.History
import Boundary.Proofs.Native.Trail
import Boundary.Proofs.Native.Balance
import Boundary.Proofs.Native.Envelope
import Boundary.Proofs.Bridge.Behind
import Boundary.Proofs.Bridge.Transparent
import Boundary.Proofs.Bridge.Orderly
import Boundary.Proofs.Bridge.OrderlyHost
import Boundary.Proofs.Bridge.InFlight
import Boundary.Proofs.Bridge.InMemory
import Boundary.Proofs.Bridge.Bookkeeping
import Boundary.Proofs.Bridge.Wrappers
import Boundary.Proofs.Bridge.Registrations
import Boundary.Proofs.Bridge.Thumbprints
import Boundary.Proofs.Wire.Instants
import Boundary.Proofs.Wire.Maps
import Boundary.Proofs.Native.Verification
import Boundary.Proofs.Json.Typed
import Boundary.Proofs.Payload.CanonicalText
import Boundary.Proofs.Payload.Digest
import Boundary.Proofs.Settings
import Boundary.Proofs.Bridge.Exports
import Boundary.Proofs.Bridge.Frame
import Boundary.Proofs.Payload.Expiry
import Boundary.Proofs.Bridge.OwnSignatures
import Boundary.Proofs.Bridge.Undecodable
import Boundary.Proofs.Wire.ByteLists
import Boundary.Proofs.Native.NullBuffer
import Boundary.Proofs.Overlay
