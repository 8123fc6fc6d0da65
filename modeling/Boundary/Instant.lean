/-!
Instants: a whole second counted from the start of 1970 and the nanoseconds after it.

A leap second keeps the number of the second before it and counts its own nanoseconds from
1000000000 on. Nothing keeps an instant from having so many anywhere, but as a text it can only
follow the last second of a minute.
-/
namespace Boundary

structure Instant where
  seconds : Int
  nanos : Nat
  deriving DecidableEq, Repr, Inhabited

namespace Instant

def nanosPerSecond : Nat := 1000000000

/-- The first second of the year -262143. -/
def earliest : Int := -8334601228800
/-- The last second of the year 262142. -/
def latest : Int := 8210266876799

def InRange (seconds : Int) : Prop := earliest ≤ seconds ∧ seconds ≤ latest

instance (seconds : Int) : Decidable (InRange seconds) :=
  inferInstanceAs (Decidable (_ ∧ _))

def IsLeap (t : Instant) : Prop := nanosPerSecond ≤ t.nanos

instance (t : Instant) : Decidable t.IsLeap := inferInstanceAs (Decidable (_ ≤ _))

/-- The instants there are. -/
def Valid (t : Instant) : Prop := InRange t.seconds ∧ t.nanos < 2 * nanosPerSecond

instance (t : Instant) : Decidable t.Valid := inferInstanceAs (Decidable (_ ∧ _))

/-- If it is a leap second, it ends a minute. -/
def Regular (t : Instant) : Prop := t.Valid ∧ (t.IsLeap → t.seconds % 60 = 59)

instance (t : Instant) : Decidable t.Regular := inferInstanceAs (Decidable (_ ∧ _))

/-- Earlier or the same: by the second, then by the nanoseconds in it. -/
protected def le (a b : Instant) : Prop :=
  a.seconds < b.seconds ∨ (a.seconds = b.seconds ∧ a.nanos ≤ b.nanos)

instance : LE Instant := ⟨Instant.le⟩

instance (a b : Instant) : Decidable (a ≤ b) := inferInstanceAs (Decidable (_ ∨ _))

/-- The last nanosecond of the second for a leap second, else the instant itself. -/
def fold (t : Instant) : Instant := { t with nanos := min t.nanos (nanosPerSecond - 1) }

/-- `nanos` nanoseconds after a whole second. The whole second has to be in range by itself,
and so has the sum. -/
def after? (seconds : Int) (nanos : Nat) : Option Instant :=
  let whole := seconds + (nanos / nanosPerSecond : Nat)
  if InRange seconds ∧ InRange whole then some ⟨whole, nanos % nanosPerSecond⟩ else none

end Instant
end Boundary
