import StatusTimeline.Binary64
import StatusTimeline.Json.Basic
import StatusTimeline.Text.Integer

/-!
This module contains the tokens of a JSON text: `Json.nextToken` cuts one off the front of the bytes of a
text. Where the bytes form no token it is `Token.bad`.
-/

namespace StatusTimeline.Json

inductive Token where
  | openObject
  | closeObject
  | openArray
  | closeArray
  | colon
  | comma
  /-- A text in quotes; none when it is no valid text. -/
  | text (s : Option String)
  | scalar (v : Json)
  | bad
deriving Inhabited

def code (c : Char) : UInt8 := c.toNat.toUInt8

def isGap (b : UInt8) : Bool := b == 0x20 || b == 0x09 || b == 0x0A || b == 0x0D

def isDigitByte (b : UInt8) : Bool := 0x30 ≤ b && b ≤ 0x39

def textOf? (bytes : List UInt8) : Option String := String.fromUTF8? ⟨bytes.toArray⟩

def utf8Of (n : Nat) : List UInt8 := (String.singleton (Char.ofNat n)).toUTF8.toList

def fourHex? (a b c d : UInt8) : Option Nat := do
  let ds ← [a, b, c, d].mapM fun x => hexDigit? (Char.ofNat x.toNat)
  some (ofDigits 16 ds)

def escape? (b : UInt8) : Option UInt8 :=
  if b = code '"' then some b
  else if b = code '\\' then some b
  else if b = code '/' then some b
  else if b = code 'b' then some 8
  else if b = code 'f' then some 12
  else if b = code 'n' then some 10
  else if b = code 'r' then some 13
  else if b = code 't' then some 9
  else none

/--
Whether a number is the first, or the second, half of a surrogate pair.
-/
def isHighHalf (n : Nat) : Bool := 0xD800 ≤ n && n ≤ 0xDBFF

@[inherit_doc isHighHalf]
def isLowHalf (n : Nat) : Bool := 0xDC00 ≤ n && n ≤ 0xDFFF

/--
What is known of a text in quotes so far: its bytes, last first, whether it is still a valid text, and the
first half of a surrogate pair that waits for the second.
-/
structure TextPart where
  bytes : List UInt8 := []
  valid : Bool := true
  half : Option Nat := none

namespace TextPart

def add (p : TextPart) (bytes : List UInt8) : TextPart :=
  { bytes := bytes ++ p.bytes, valid := p.valid && p.half.isNone, half := none }

def addUnit (p : TextPart) (n : Nat) : TextPart :=
  match p.half with
  | some high =>
    if isLowHalf n then
      { p with
        bytes := (utf8Of (0x10000 + (high - 0xD800) * 0x400 + (n - 0xDC00))).reverse ++ p.bytes
        half := none }
    else { p with valid := false, half := none }
  | none =>
    if isHighHalf n then { p with half := some n }
    else if isLowHalf n then { p with valid := false }
    else { p with bytes := (utf8Of n).reverse ++ p.bytes }

def finish (p : TextPart) : Option String :=
  if p.valid && p.half.isNone then textOf? p.bytes.reverse else none

end TextPart

def takeText (part : TextPart) : List UInt8 → Option (Option String × List UInt8)
  | [] => none
  | b :: rest =>
    if b = code '"' then some (part.finish, rest)
    else if b = code '\\' then
      match rest with
      | e :: rest =>
        match escape? e with
        | some byte => takeText (part.add [byte]) rest
        | none =>
          if e = code 'u' then
            match rest with
            | w :: x :: y :: z :: rest =>
              match fourHex? w x y z with
              | some n => takeText (part.addUnit n) rest
              | none => none
            | _ => none
          else none
      | [] => none
    else if b < 0x20 then none
    else takeText (part.add [b]) rest

def spanDigits (bs : List UInt8) : List UInt8 × List UInt8 := bs.span isDigitByte

def asciiText (bs : List UInt8) : String :=
  String.ofList (bs.map fun b => Char.ofNat b.toNat)

def valueOf (bs : List UInt8) : Nat := ofDigits 10 (bs.map fun b => b.toNat - 0x30)

/--
Append digits to a number as long as it stays one of 64 bits: the number, and how many digits are left out.
-/
def appendDigits (n : Nat) : List UInt8 → Nat × Nat
  | [] => (n, 0)
  | b :: bs =>
    let next := n * 10 + (b.toNat - 0x30)
    if next < UInt64.size then appendDigits next bs else (n, bs.length + 1)

/--
Whether a number times a power of ten is within the range of floating point. Both are rounded before they are
multiplied, and no power beyond the range is tried on anything but zero.
-/
def isInRange (n : Nat) (exponent : Int) : Bool :=
  n = 0 || exponent < 0 ||
    (exponent ≤ 308 && ((Binary64.ofNat n).mul (.ofNat (Nat.pow 10 exponent.toNat))).isFinite)

/--
The value of a number from its parts: the sign, the digits before and after the point, and the exponent. The
digits count for as long as they make a number of 64 bits; those before the point that are left out count
towards the exponent.
-/
def numberOf (negative : Bool) (whole fraction : List UInt8) (exponent : Option Int)
    (text : List UInt8) : Json :=
  let (n, beyond) := appendDigits 0 whole
  let isPlain := fraction.isEmpty && exponent.isNone && beyond = 0
  if isPlain && !negative then int n
  else if isPlain && 0 < n && n ≤ signedBound then int (-(n : Int))
  else
    let (n, unread) := appendDigits n fraction
    let places : Int := beyond - (fraction.length - unread : Nat)
    if isInRange n (exponent.getD 0 + places) then decimal (asciiText text) else unreadable

/--
Read an exponent, when there is one: its value, its bytes and what follows. None when there is a beginning
of one only.
-/
def takeExponent (bs : List UInt8) : Option (Option Int × List UInt8 × List UInt8) :=
  match bs with
  | e :: rest =>
    if e = code 'e' ∨ e = code 'E' then
      let (sign, ds, rest) := match rest with
        | s :: more =>
          if s = code '+' ∨ s = code '-' then
            let (ds, rest) := spanDigits more
            ([s], ds, rest)
          else
            let (ds, rest) := spanDigits (s :: more)
            ([], ds, rest)
        | [] => ([], [], [])
      if ds.isEmpty then none
      else
        -- An exponent of more digits decides as much as one of eight.
        let size : Int := valueOf ((ds.dropWhile (· = code '0')).take 8)
        some (some (if sign = [code '-'] then -size else size), e :: sign ++ ds, rest)
    else some (none, [], bs)
  | [] => some (none, [], [])

def takeNumber (bs : List UInt8) : Option (Json × List UInt8) := do
  let (sign, rest) := match bs with
    | s :: rest => if s = code '-' then ([s], rest) else ([], bs)
    | [] => ([], [])
  let (whole, rest) := spanDigits rest
  if whole.isEmpty || (whole.head? = some (code '0') && 1 < whole.length) then none
  else
    let (point, fraction, rest) ← match rest with
      | p :: more =>
        if p = code '.' then
          let (fraction, rest) := spanDigits more
          if fraction.isEmpty then none else some ([p], fraction, rest)
        else some ([], [], rest)
      | [] => some ([], [], [])
    let (exponent, exponentText, rest) ← takeExponent rest
    some (numberOf (!sign.isEmpty) whole fraction exponent
      (sign ++ whole ++ point ++ fraction ++ exponentText), rest)

def literals : List (String × Json) := [("true", bool true), ("false", bool false), ("null", null)]

def takeLiteral (bs : List UInt8) : Option (Json × List UInt8) :=
  literals.findSome? fun (name, v) =>
    let word := name.toList.map code
    if word.isPrefixOf bs then some (v, bs.drop word.length) else none

/--
Read the token at the front; none at the end of the text.
-/
def nextToken (bs : List UInt8) : Option (Token × List UInt8) :=
  match bs.dropWhile isGap with
  | [] => none
  | b :: rest =>
    if b = code '\x7b' then some (.openObject, rest)
    else if b = code '\x7d' then some (.closeObject, rest)
    else if b = code '[' then some (.openArray, rest)
    else if b = code ']' then some (.closeArray, rest)
    else if b = code ':' then some (.colon, rest)
    else if b = code ',' then some (.comma, rest)
    else if b = code '"' then
      match takeText {} rest with
      | some (s, rest) => some (.text s, rest)
      | none => some (.bad, [])
    else
      match takeLiteral (b :: rest) <|> takeNumber (b :: rest) with
      | some (v, rest) => some (.scalar v, rest)
      | none => some (.bad, [])

end StatusTimeline.Json
