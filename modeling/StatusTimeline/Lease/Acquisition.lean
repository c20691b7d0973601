import StatusTimeline.Time.Span

/-!
This module contains the pace of leasing: the pauses between the attempts to acquire a lease, and how often
a lease that is held gets renewed.
-/

namespace StatusTimeline

/--
The state of an acquisition between two attempts: how long it may take, how long it has taken, and the next
pause.
-/
structure Acquisition where
  timeout : Span
  backoff : Span
  waited : Span := ⟨0⟩
deriving DecidableEq, Inhabited, Repr

namespace Acquisition

def longestPause : Span := .ofMillis 500

/--
The pause after an attempt that failed, and the state after that pause; none when the time is up. Pauses double
and are cut so that the last attempt comes when the time is up.
-/
def pause? (a : Acquisition) : Option (Span × Acquisition) :=
  if a.timeout.nanos ≤ a.waited.nanos then none
  else
    let pause := min a.backoff.nanos (a.timeout.nanos - a.waited.nanos)
    some (⟨pause⟩,
      { a with
        waited := ⟨a.waited.nanos + pause⟩
        backoff := ⟨min (2 * a.backoff.nanos) longestPause.nanos⟩ })

end Acquisition

namespace Lease

/--
The pause before the first repeated attempt, unless settings give another.
-/
def defaultPause : Span := .ofMillis 25

/--
The time between two renewals: a third of the lease's length, and never less than ten milliseconds.
-/
def renewalPeriod (ttl : Span) : Span := ⟨max (ttl.nanos / 3) 10000000⟩

end Lease

end StatusTimeline
