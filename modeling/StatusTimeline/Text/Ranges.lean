import StatusTimeline.Text.Digits

/-!
This module contains the reading of tables of characters. A table is a text of entries with blanks or ends
of lines between them, in which code points are written in hexadecimal: `41-5A` for a range, `B5` for a
single one.
-/

namespace StatusTimeline

def hexNumber (cs : List Char) : Nat := ofDigits 16 (cs.filterMap hexDigit?)

/--
Split a text at the first sign of a kind. What follows is empty when there is none.
-/
def cut (sign : Char) (cs : List Char) : List Char × List Char :=
  (cs.takeWhile (· ≠ sign), (cs.dropWhile (· ≠ sign)).drop 1)

def hexNumbers (cs : List Char) : List Nat :=
  ((String.ofList cs).splitOn "+").map fun s => hexNumber s.toList

def rangeOf (cs : List Char) : Nat × Nat :=
  let (first, last) := cut '-' cs
  (hexNumber first, if last.isEmpty then hexNumber first else hexNumber last)

def entriesOf (table : String) : List (List Char) :=
  (((table.splitOn "\n").flatMap (·.splitOn " ")).filter (· ≠ "")).map (·.toList)

/--
A set of characters: ranges of code points, their bounds included.
-/
structure Ranges where
  bounds : List (Nat × Nat)
deriving DecidableEq, Inhabited, Repr

namespace Ranges

def ofText (table : String) : Ranges := ⟨(entriesOf table).map rangeOf⟩

def contains (r : Ranges) (c : Char) : Bool :=
  r.bounds.any fun (first, last) => first ≤ c.toNat && c.toNat ≤ last

end Ranges

end StatusTimeline
