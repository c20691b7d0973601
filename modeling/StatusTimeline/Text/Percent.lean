import StatusTimeline.Text.Digits

/-!
This module contains percent-encoded texts: decoding them into bytes, and the pairs of names and values that
queries consist of.
-/

namespace StatusTimeline

/--
Decode the bytes of a text: a percent sign with two hexadecimal digits stands for a byte, every other character
for its own bytes.
-/
def percentDecode : List Char → List UInt8
  | '%' :: a :: b :: rest =>
    match hexDigit? a, hexDigit? b with
    | some x, some y => UInt8.ofNat (x * 16 + y) :: percentDecode rest
    | _, _ => 37 :: percentDecode (a :: b :: rest)
  | c :: rest => (String.singleton c).toUTF8.toList ++ percentDecode rest
  | [] => []

def utf8Text? (bytes : List UInt8) : Option String := String.fromUTF8? ⟨bytes.toArray⟩

/--
Decode a text whose decoded form is a text again.
-/
def percentDecodeText? (s : String) : Option String := utf8Text? (percentDecode s.toList)

/--
Decode a part of a query, where a plus sign stands for a space.
-/
def formDecode (cs : List Char) : List UInt8 :=
  percentDecode (cs.map fun c => if c = '+' then ' ' else c)

/--
The pairs of a query in order. A part without an equals sign has the empty value; empty parts do not count.
-/
def formPairs (query : String) : List (List UInt8 × List UInt8) :=
  ((query.splitOn "&").filter (· ≠ "")).map fun part =>
    let cs := part.toList
    (formDecode (cs.takeWhile (· ≠ '=')), formDecode ((cs.dropWhile (· ≠ '=')).drop 1))

end StatusTimeline
