import Boundary.Native.Core
/-!
The buffers and the contract of a core that lives in the same process: bytes are copied as they
are, and nothing fails.
-/
namespace Boundary
namespace Core

def resident : Core σ where
  space := Contract.current.space
  allocate b s := (.success (.copyOf b), s)
  reclaim _ s := (Status.initial, s)
  version s := (.success Contract.current.version, s)
  checksums := Contract.current.checksums.entries.map fun (name, sum) =>
    (name, fun s => (.success sum, s))
  backlog _ := 0
  backlog_reclaim _ _ h := absurd rfl h

end Core
end Boundary
