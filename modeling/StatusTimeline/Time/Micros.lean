import StatusTimeline.Binary64
import StatusTimeline.Time.Instant
import StatusTimeline.Time.Span

/-!
This module contains instants in whole microseconds, which are all that the database keeps: those that it is
given and those that its clock reads.
-/

namespace StatusTimeline

namespace Instant

def year2000 : Int := 946684800000000000

/--
An instant that is handed to the database, in whole microseconds, cut towards the start of 2000.
-/
def cutToMicros (t : Instant) : Instant :=
  ofNanos (year2000 + (t.toNanos - year2000).tdiv 1000 * 1000)

/--
The reading of the database's own clock at an instant: the whole microseconds that have passed.
-/
def onDatabaseClock (t : Instant) : Instant := ofNanos (t.toNanos / 1000 * 1000)

/--
The microseconds of a length that is handed to the database as a number of seconds in floating point.
-/
def microsOf (s : Span) : Nat :=
  let seconds := (Binary64.ofNat s.seconds).add (.ofQuotient s.subsecond 1000000000)
  (seconds.mul (.ofNat 1000000)).round

def afterOnDatabaseClock (t : Instant) (s : Span) : Instant :=
  t.onDatabaseClock.shift (microsOf s * 1000)

end Instant

end StatusTimeline
