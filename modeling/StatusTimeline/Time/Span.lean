/-!
This module contains lengths of time as settings give them, and their text.
-/

namespace StatusTimeline

structure Span where
  nanos : Nat
deriving DecidableEq, Inhabited, Repr

namespace Span

def ofParts (seconds nanos : Nat) : Span := ⟨seconds * 1000000000 + nanos⟩

def ofSeconds (seconds : Nat) : Span := ofParts seconds 0

def ofMillis (millis : Nat) : Span := ⟨millis * 1000000⟩

def seconds (s : Span) : Nat := s.nanos / 1000000000

/--
The nanoseconds of a length that do not fill a second.
-/
def subsecond (s : Span) : Nat := s.nanos % 1000000000

def millis (s : Span) : Nat := s.nanos / 1000000

/--
Write `amount` units as `amount / unit` with as many decimals as needed.
-/
def scaled (places amount : Nat) : String :=
  let unit := Nat.pow 10 places
  let fraction := amount % unit
  if fraction = 0 then (amount / unit).repr
  else
    let digits := fraction.repr.toList
    let padded := List.replicate (places - digits.length) '0' ++ digits
    let shortened := (padded.reverse.dropWhile (· == '0')).reverse
    (amount / unit).repr ++ "." ++ String.ofList shortened

/--
The text of a length: in the largest unit of seconds, milliseconds, microseconds and nanoseconds that makes
it at least one.
-/
def text (s : Span) : String :=
  if 1000000000 ≤ s.nanos then scaled 9 s.nanos ++ "s"
  else if 1000000 ≤ s.nanos then scaled 6 s.nanos ++ "ms"
  else if 1000 ≤ s.nanos then scaled 3 s.nanos ++ "µs"
  else scaled 0 s.nanos ++ "ns"

theorem nanos_ofParts (seconds nanos : Nat) :
    (ofParts seconds nanos).nanos = seconds * 1000000000 + nanos := rfl

end Span

end StatusTimeline
