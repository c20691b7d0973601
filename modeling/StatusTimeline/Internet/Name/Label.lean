import StatusTimeline.Internet.Name.Direction
import StatusTimeline.Internet.Name.Folding
import StatusTimeline.Internet.Name.Joining
import StatusTimeline.Internet.Name.Punycode
import StatusTimeline.Text.Composition

/-!
This module contains the labels of the names of hosts in all scripts: names are folded and split at points, labels in
ASCII that stand for others are decoded, and each label must be well-formed.
-/

namespace StatusTimeline.Internet.Name

/--
Whether a character in ASCII must not occur in a name.
-/
def isDenied (c : Char) : Bool :=
  c.toNat ≤ 0x20 || c.toNat = 0x7F || "%#/:<>?@[\\]^|".toList.contains c

def isAscii (cs : List Char) : Bool := cs.all fun c => c.toNat < 128

def longestEncoded : Nat := 2000

def longestDecoded : Nat := 1000

/--
The label that a label stands for; none when that is not one that could have been written itself.
-/
def decodedLabel? : List Char → Option (List Char)
  | 'x' :: 'n' :: '-' :: '-' :: rest => do
    guard (isAscii rest && rest.getLast?.any (· ≠ '-') && rest.length ≤ longestEncoded)
    let label ← Punycode.decode? rest
    guard (label.all (Folding.ofChar · = .kept) && composed label = label)
    return label
  | label => some label

def vowelKiller : Nat := 9

def joins (sets : List Ranges) : List Char → Bool
  | [] => false
  | c :: cs => sets.any (·.contains c) || isTransparent c && joins sets cs

/--
Whether every joiner of a label has a reason: a mark that makes the consonant before it lose its vowel, and for the
joiner that separates, letters on its both sides that would join. `before` is what precedes, the nearest first.
-/
def joinersFit (before : List Char) : List Char → Bool
  | [] => true
  | c :: cs =>
    let fits := match c.toNat, before with
      | 0x200C, b :: _ =>
        Composition.classOf b = vowelKiller ||
          joins [joinsBoth, joinsNext] before && joins [joinsBoth, joinsPrevious] cs
      | 0x200D, b :: _ => Composition.classOf b = vowelKiller
      | 0x200C, [] => false
      | 0x200D, [] => false
      | _, _ => true
    fits && joinersFit (c :: before) cs

def isLabel (label : List Char) : Bool :=
  !label.head?.any isMark && joinersFit [] label && (isAscii label || label.length ≤ longestDecoded)

/--
Whether characters of these directions may follow the first one of a label. Marks at the end do not count.
-/
def directionsFit (last inner : List Direction) (tail : List Direction) : Bool :=
  match tail.reverse.dropWhile (· = .mark) with
  | [] => true
  | d :: ds => last.contains d && ds.all inner.contains

/--
Whether a label can be read in one direction only. One that is written from right to left has digits of one kind.
-/
def isOneWay (label : List Char) : Bool :=
  match label.map Direction.ofChar with
  | [] => true
  | .rightward :: tail =>
    directionsFit [.rightward, .digit] [.rightward, .digit, .neutral, .mark] tail
  | .leftward :: tail =>
    directionsFit [.leftward, .digit, .arabicDigit]
        [.leftward, .digit, .arabicDigit, .neutral, .mark] tail &&
      !(tail.contains .digit && tail.contains .arabicDigit)
  | _ => false

def labelsOf (cs : List Char) : List (List Char) :=
  ((String.ofList cs).splitOn ".").map (·.toList)

/--
The labels of a name; none when it is not one. Where one of them has characters that are written from right to
left, each must be readable in one direction.
-/
def labels? (name : List Char) : Option (List (List Char)) := do
  let name := composed (← folded? name)
  guard (!name.any isDenied)
  let labels ← (labelsOf name).mapM decodedLabel?
  guard (labels.all isLabel)
  let isMixed := labels.any fun label =>
    label.any fun c => [Direction.leftward, .arabicDigit].contains (.ofChar c)
  guard (!isMixed || labels.all isOneWay)
  return labels

end StatusTimeline.Internet.Name
