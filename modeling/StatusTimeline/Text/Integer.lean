import StatusTimeline.Text.Digits

/-!
This module contains the reading of whole numbers: ASCII digits with an optional sign, within the range of
a fixed width. Nothing else is accepted, no blanks and no separators.
-/

namespace StatusTimeline

/--
The whole number that a text writes: an optional sign, then one or more digits.
-/
def wholeNumber? (cs : List Char) : Option Int :=
  match cs with
  | '+' :: ds => (allDigits? digit? ds).map fun ds => (ofDigits 10 ds : Int)
  | '-' :: ds => (allDigits? digit? ds).map fun ds => -(ofDigits 10 ds : Int)
  | ds => (allDigits? digit? ds).map fun ds => (ofDigits 10 ds : Int)

/--
The natural number below `bound` that a text writes: an optional plus sign, then one or more digits.
-/
def naturalBelow? (bound : Nat) (cs : List Char) : Option Nat :=
  let ds := match cs with
    | '+' :: ds => ds
    | ds => ds
  ((allDigits? digit? ds).map (ofDigits 10)).filter (· < bound)

/--
Why a text writes no natural number below a bound.
-/
inductive NumberFlaw where
  | empty
  | noDigit
  | tooLarge
deriving DecidableEq, Inhabited, Repr

def NumberFlaw.message : NumberFlaw → String
  | empty => "cannot parse integer from empty string"
  | noDigit => "invalid digit found in string"
  | tooLarge => "number too large to fit in target type"

/--
The first thing that is wrong with digits that go on from a number.
-/
def digitsFlaw? (bound : Nat) (n : Nat) : List Char → Option NumberFlaw
  | [] => none
  | c :: cs =>
    match digit? c with
    | none => some .noDigit
    | some d => if n * 10 + d < bound then digitsFlaw? bound (n * 10 + d) cs else some .tooLarge

/--
The first thing that is wrong with a text that is to write a natural number below `bound`.
-/
def numberFlaw? (bound : Nat) : List Char → Option NumberFlaw
  | [] => some .empty
  | ['+'] => some .noDigit
  | '+' :: ds => digitsFlaw? bound 0 ds
  | ds => digitsFlaw? bound 0 ds

/--
The least natural number that 64 bits with a sign do not hold.
-/
def signedBound : Nat := 9223372036854775808

def signed64? (cs : List Char) : Option Int :=
  (wholeNumber? cs).filter fun n => -signedBound ≤ n ∧ n < signedBound

end StatusTimeline
