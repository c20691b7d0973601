import StatusTimeline.Time.Timestamp

/-!
This module contains retention: how long closed intervals are kept, and the cutoff before which they are
removed.
-/

namespace StatusTimeline

/--
How long closed intervals are kept. A negative length reaches into the future.
-/
structure Retention where
  seconds : Int
deriving DecidableEq, Inhabited, Repr

namespace Retention

def ofDays (days : Int) : Retention := ⟨days * 86400⟩

/--
Whether the length is one that spans of time can have, which are counted in milliseconds of 64 bits.
-/
def isSpan (r : Retention) : Bool := r.seconds.natAbs ≤ 9223372036854775

/--
The instant before which closed intervals are removed; none when the clock cannot be read, or the calendar does
not reach that far.
-/
def cutoff? (r : Retention) (now : Instant) : Option Instant :=
  let cutoff := now.shift (-r.seconds * 1000000000)
  if now.isReadable && r.isSpan && cutoff.inCalendar then some cutoff else none

end Retention

end StatusTimeline
