import StatusTimeline.Text.Digits

/-!
This module contains identifiers of 128 bits and their texts: `Uuid.text` writes 32 lower-case digits in
five groups, `Uuid.ofText?` reads that form in either case, without its hyphens, in braces, or as a name
that starts with `urn:uuid:`.
-/

namespace StatusTimeline

structure Uuid where
  bits : BitVec 128
deriving DecidableEq, Inhabited, Hashable, Repr

namespace Uuid

def digits (u : Uuid) : List Char := fixedText 16 32 u.bits.toNat

def grouped (cs : List Char) : List Char :=
  cs.take 8 ++ '-' :: (cs.drop 8).take 4 ++ '-' :: (cs.drop 12).take 4 ++
    '-' :: (cs.drop 16).take 4 ++ '-' :: cs.drop 20

def chars (u : Uuid) : List Char := grouped u.digits

def text (u : Uuid) : String := String.ofList u.chars

def ofDigits? (cs : List Char) : Option Uuid :=
  if cs.length = 32 then
    (cs.mapM hexDigit?).map fun ds => ⟨BitVec.ofNat 128 (ofDigits 16 ds)⟩
  else none

def ofGrouped? (cs : List Char) : Option Uuid :=
  let bare := cs.filter (· ≠ '-')
  if cs = grouped bare then ofDigits? bare else none

def ofChars? (cs : List Char) : Option Uuid :=
  match cs.length with
  | 32 => ofDigits? cs
  | 36 => ofGrouped? cs
  | 38 =>
    if cs.head? = some '{' ∧ cs.getLast? = some '}' then ofGrouped? (cs.drop 1).dropLast else none
  | 45 =>
    if (cs.take 9).map Char.toLower = "urn:uuid:".toList then ofGrouped? (cs.drop 9) else none
  | _ => none

def ofText? (s : String) : Option Uuid := ofChars? s.toList

/--
The identifier of the `n`-th record of a numbered series.
-/
def ofSerial (n : Nat) : Uuid := ⟨BitVec.ofNat 128 (0x40008000000000000000 + n)⟩

def le (a b : Uuid) : Bool := a.bits.toNat ≤ b.bits.toNat

instance : ToString Uuid := ⟨text⟩

end Uuid

end StatusTimeline
