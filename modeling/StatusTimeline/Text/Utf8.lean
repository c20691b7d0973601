/-!
This module contains the reading of bytes as UTF-8 where they may be wrong: where they stop being a text, and
the text with every wrong part replaced.
-/

namespace StatusTimeline

/--
Where bytes stop being a text: how many are right, and how many of the next are wrong together; none when the
bytes only break off.
-/
structure Utf8Flaw where
  right : Nat
  wrong : Option Nat
deriving DecidableEq, Inhabited, Repr

def Utf8Flaw.message (flaw : Utf8Flaw) : String :=
  match flaw.wrong with
  | some wrong =>
    "invalid utf-8 sequence of " ++ wrong.repr ++ " bytes from index " ++ flaw.right.repr
  | none => "incomplete utf-8 byte sequence from index " ++ flaw.right.repr

namespace Utf8

def anyTail : UInt8 × UInt8 := (0x80, 0xBF)

/--
The bounds of the bytes that follow the first byte of a character; none where no character starts so. The
second byte has narrower bounds where others would write a character in more bytes than it takes, a half of
a surrogate pair, or nothing.
-/
def tails? (lead : UInt8) : Option (List (UInt8 × UInt8)) :=
  if lead < 0x80 then some []
  else if lead < 0xC2 then none
  else if lead < 0xE0 then some [anyTail]
  else if lead = 0xE0 then some [(0xA0, 0xBF), anyTail]
  else if lead = 0xED then some [(0x80, 0x9F), anyTail]
  else if lead < 0xF0 then some [anyTail, anyTail]
  else if lead = 0xF0 then some [(0x90, 0xBF), anyTail, anyTail]
  else if lead < 0xF4 then some [anyTail, anyTail, anyTail]
  else if lead = 0xF4 then some [(0x80, 0x8F), anyTail, anyTail]
  else none

/--
How many bytes at the front fit the bounds, up to the first that does not, and whether that one is there.
-/
def matchTails : List (UInt8 × UInt8) → List UInt8 → Nat × Option Bool
  | [], _ => (0, none)
  | _ :: _, [] => (0, some false)
  | (least, most) :: tails, b :: bs =>
    if least ≤ b ∧ b ≤ most then
      let (n, stop) := matchTails tails bs
      (n + 1, stop)
    else (0, some true)

/--
A part of a text in bytes: a character in so many bytes, so many bytes that are wrong together, or bytes that
break off within a character.
-/
inductive Part where
  | character (width : Nat)
  | wrong (width : Nat)
  | brokenOff
deriving DecidableEq, Inhabited, Repr

/--
The part at the front of some bytes that start with a given one.
-/
def frontPart (lead : UInt8) (bs : List UInt8) : Part :=
  match tails? lead with
  | none => .wrong 1
  | some tails =>
    match matchTails tails bs with
    | (n, none) => .character (n + 1)
    | (n, some true) => .wrong (n + 1)
    | (_, some false) => .brokenOff

/--
The first flaw of bytes after so many that are right. Every part takes at least a byte, so that as many steps
as there are bytes are enough.
-/
def flawAfter (right : Nat) : (steps : Nat) → List UInt8 → Option Utf8Flaw
  | 0, _ => none
  | _, [] => none
  | steps + 1, lead :: bs =>
    match frontPart lead bs with
    | .character width => flawAfter (right + width) steps (bs.drop (width - 1))
    | .wrong width => some { right, wrong := some width }
    | .brokenOff => some { right, wrong := none }

def replaceWrong : (steps : Nat) → List UInt8 → String
  | 0, _ => ""
  | _, [] => ""
  | steps + 1, lead :: bs =>
    match frontPart lead bs with
    | .character width =>
      (String.fromUTF8? ⟨(lead :: bs.take (width - 1)).toArray⟩).getD "" ++
        replaceWrong steps (bs.drop (width - 1))
    | .wrong width => "\uFFFD" ++ replaceWrong steps (bs.drop (width - 1))
    | .brokenOff => "\uFFFD"

end Utf8

def utf8Flaw? (bs : List UInt8) : Option Utf8Flaw := Utf8.flawAfter 0 bs.length bs

/--
The text of bytes, with a sign of replacement for every part that is wrong.
-/
def utf8Lossy (bs : List UInt8) : String := Utf8.replaceWrong bs.length bs

end StatusTimeline
