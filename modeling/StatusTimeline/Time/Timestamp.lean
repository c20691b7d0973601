import StatusTimeline.Text.Blank
import StatusTimeline.Text.Digits
import StatusTimeline.Time.Calendar
import StatusTimeline.Time.Instant

/-!
This module contains the text of an instant: `Instant.text` writes it in UTC with as few fraction digits as
lose nothing, `Instant.ofText?` reads it, and more forms besides: blanks between the numbers, numbers with
fewer digits, any offset from UTC.
-/

namespace StatusTimeline

namespace Instant

def day (t : Instant) : Int := t.second / 86400

def secondOfDay (t : Instant) : Int := t.second % 86400

def inCalendar (t : Instant) : Bool :=
  decide (Date.firstDay ≤ t.day) && decide (t.day ≤ Date.lastDay)

/--
Four digits for the years of four digits; a sign and at least four digits for the others.
-/
def yearText (year : Int) : List Char :=
  if 0 ≤ year ∧ year ≤ 9999 then fixedText 10 4 year.toNat
  else (if year < 0 then '-' else '+') :: paddedText 4 year.natAbs

/--
Nothing for a whole second, else a point and three, six or nine digits, the fewest that lose nothing.
-/
def fractionText (nano : Nat) : List Char :=
  if nano = 0 then []
  else if nano % 1000000 = 0 then '.' :: fixedText 10 3 (nano / 1000000)
  else if nano % 1000 = 0 then '.' :: fixedText 10 6 (nano / 1000)
  else '.' :: fixedText 10 9 nano

/--
The characters of an instant's text. A leap second is written as second 60.
-/
def chars (t : Instant) : List Char :=
  let date := Date.ofDay t.day
  let second := t.secondOfDay.toNat
  let nano := t.nano.toNat
  yearText date.year ++ '-' :: fixedText 10 2 date.month ++ '-' :: fixedText 10 2 date.day ++
    'T' :: fixedText 10 2 (second / 3600) ++ ':' :: fixedText 10 2 (second / 60 % 60) ++
    ':' :: fixedText 10 2 (second % 60 + nano / 1000000000) ++ fractionText (nano % 1000000000) ++
    ['Z']

def text (t : Instant) : String := String.ofList t.chars

def takeChar (c : Char) : List Char → Option (List Char)
  | d :: rest => if d = c then some rest else none
  | [] => none

/--
Read a number of one or two digits that lies in a range, blanks in front of it allowed.
-/
def takePart (least most : Nat) (cs : List Char) : Option (Nat × List Char) := do
  let (n, rest) ← takeNumber 2 (skipBlanks cs)
  if least ≤ n ∧ n ≤ most then some (n, rest) else none

/--
Read a year: up to four digits, or a sign and any number of digits.
-/
def takeYear (cs : List Char) : Option (Int × List Char) :=
  match skipBlanks cs with
  | '-' :: rest => (takeNumber rest.length rest).map fun (n, rest) => (-(n : Int), rest)
  | '+' :: rest => (takeNumber rest.length rest).map fun (n, rest) => ((n : Int), rest)
  | rest => (takeNumber 4 rest).map fun (n, rest) => ((n : Int), rest)

/--
Read an optional fraction of a second in nanoseconds; digits after the ninth have no effect.
-/
def takeFraction (cs : List Char) : Option (Nat × List Char) :=
  match cs with
  | '.' :: rest => do
    let (ds, rest) ← takeDigits 9 rest
    some (ofDigits 10 ds * Nat.pow 10 (9 - ds.length), rest.dropWhile fun c => (digit? c).isSome)
  | rest => some (0, rest)

/--
Read two digits, the first of which has at most the given value.
-/
def takePair (mostFirst : Nat) : List Char → Option (Nat × List Char)
  | a :: b :: rest => do
    let x ← digit? a
    let y ← digit? b
    if x ≤ mostFirst then some (x * 10 + y, rest) else none
  | _ => none

/--
Read the seconds by which a clock is ahead of UTC: `Z`, `UTC`, or a sign, hours and minutes, the latter two
apart by any colons and blanks. A clock is less than a day off.
-/
def takeOffset (cs : List Char) : Option (Int × List Char) :=
  match cs with
  | u :: t :: c :: rest =>
    if u.toLower = 'u' ∧ t.toLower = 't' ∧ c.toLower = 'c' then some (0, rest) else numeric cs
  | _ => numeric cs
where
  numeric : List Char → Option (Int × List Char)
    | 'Z' :: rest => some (0, rest)
    | 'z' :: rest => some (0, rest)
    | '+' :: rest => amount 1 rest
    | '-' :: rest => amount (-1) rest
    | '−' :: rest => amount (-1) rest
    | _ => none
  amount (sign : Int) (cs : List Char) : Option (Int × List Char) := do
    let (hours, rest) ← takePair 9 cs
    let (minutes, rest) ← takePair 5 (rest.dropWhile fun c => c == ':' || isBlank c)
    if hours < 24 then some (sign * (hours * 3600 + minutes * 60 : Nat), rest) else none

/--
Read an instant from the characters of a text. Both the date as written and the date in UTC must be
dates of the calendar.
-/
def ofChars? (cs : List Char) : Option Instant := do
  let (year, cs) ← takeYear cs
  let cs ← takeChar '-' (skipBlanks cs)
  let (month, cs) ← takePart 1 12 cs
  let cs ← takeChar '-' (skipBlanks cs)
  let (day, cs) ← takePart 1 31 cs
  let cs ← match cs with
    | 'T' :: rest => some rest
    | 't' :: rest => some rest
    | ' ' :: rest => some rest
    | _ => none
  let (hour, cs) ← takePart 0 23 cs
  let cs ← takeChar ':' (skipBlanks cs)
  let (minute, cs) ← takePart 0 59 cs
  let cs ← takeChar ':' (skipBlanks cs)
  let (second, cs) ← takePart 0 60 cs
  let (nano, cs) ← takeFraction cs
  let (offset, cs) ← takeOffset (skipBlanks cs)
  let date : Date := ⟨year, month, day⟩
  let leap := if second = 60 then 1 else 0
  let seconds : Int := date.toDay * 86400 + (hour * 3600 + minute * 60 + (second - leap) : Nat) - offset
  let t := ofParts seconds (nano + leap * 1000000000 : Nat)
  if (skipBlanks cs).isEmpty && date.isValid && t.inCalendar then some t else none

def ofText? (s : String) : Option Instant := ofChars? s.toList

end Instant

end StatusTimeline
