import StatusTimeline.Text.Digits

/-!
This module contains the decoding of labels that are written in ASCII: characters beyond ASCII are written behind
the others, as the distances from each to the next in a form of variable length.
-/

namespace StatusTimeline.Internet.Punycode

/--
The value of a digit: a letter in either case, then a decimal digit.
-/
def digitValue? (c : Char) : Option Nat :=
  if c.isLower then some (c.toNat - 'a'.toNat)
  else if c.isUpper then some (c.toNat - 'A'.toNat)
  else (digit? c).map (· + 26)

/--
The least digit that is not the last one, at a place and under a bias.
-/
def threshold (place bias : Nat) : Nat :=
  if place ≤ bias then 1 else if bias + 26 ≤ place then 26 else place - bias

/--
Scale a distance down until it is small, and tell the place that goes with it.
-/
def scaledDown (distance place : Nat) : Nat × Nat :=
  if 455 < distance then scaledDown (distance / 35) (place + 36) else (distance, place)
termination_by distance
decreasing_by exact Nat.div_lt_self (by omega) (by omega)

/--
The bias after a distance: the places of small digits move to where they serve distances of its size best.
-/
def adapted (distance count : Nat) (isFirst : Bool) : Nat :=
  let distance := if isFirst then distance / 700 else distance / 2
  let (distance, place) := scaledDown (distance + distance / count) 0
  place + 36 * distance / (distance + 38)

def word? (n : Nat) : Option Nat := if n < UInt32.size then some n else none

def addDistance (bias : Nat) (place weight n : Nat) : List Char → Option (Nat × List Char)
  | [] => none
  | c :: cs => do
    let digit ← digitValue? c
    let n ← word? (n + (← word? (digit * weight)))
    let least := threshold place bias
    if digit < least then return (n, cs)
    addDistance bias (place + 36) (← word? (weight * (36 - least))) n cs

/--
Insert the characters that distances lead to, in so many steps. A number counts the places of all characters in
turn: it tells the next character and its place.
-/
def insertAll (bias point n : Nat) (found : List Char) : (steps : Nat) → List Char → Option (List Char)
  | _, [] => some found
  | 0, _ => none
  | steps + 1, cs => do
    let (sum, rest) ← addDistance bias 36 1 n cs
    let count := found.length + 1
    let point ← word? (point + sum / count)
    if point.isValidChar then
      insertAll (adapted (sum - n) count (n = 0)) point (sum % count + 1)
        (found.insertIdx (sum % count) (Char.ofNat point)) steps rest
    else none

/--
Decode a label. Its characters in ASCII stand before the last hyphen, if there are any.
-/
def decode? (cs : List Char) : Option (List Char) :=
  let distances := (cs.reverse.takeWhile (· ≠ '-')).reverse
  let found := cs.take (cs.length - distances.length - 1)
  if found.isEmpty then insertAll 72 128 0 [] cs.length cs
  else insertAll 72 128 0 found cs.length distances

end StatusTimeline.Internet.Punycode
