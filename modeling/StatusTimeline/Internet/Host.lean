import StatusTimeline.Internet.Address
import StatusTimeline.Internet.Name.Label
import StatusTimeline.Text.Blank
import StatusTimeline.Text.Percent

/-!
This module contains the hosts that addresses name: an Internet address of version 6 in brackets, else a name.
Where addresses lead to servers of the web, a name that ends in a number is an address of version 4.
-/

namespace StatusTimeline.Internet

inductive HostFlaw where
  | empty
  | version4
  | version6
  | character
  | name
deriving DecidableEq, Inhabited, Repr

def HostFlaw.message : HostFlaw → String
  | empty => "empty host"
  | version4 => "invalid IPv4 address"
  | version6 => "invalid IPv6 address"
  | character => "invalid domain character"
  | name => "invalid international domain name"

/--
What is wrong with a host that starts with a bracket: what follows the bracket is to be an address of version 6
and a bracket that closes.
-/
def bracketFlaw? (cs : List Char) : Option HostFlaw :=
  match takeVersion6 cs with
  | some (_, [']']) => none
  | _ => some .version6

/--
Whether a character must not occur in the name of a host as it is written.
-/
def isForbidden (c : Char) : Bool := "\x00\t\n\r #/:<>?@[\\]^|".toList.contains c

/--
What is wrong with a host that may be anything its scheme takes for one.
-/
def generalHostFlaw? : List Char → Option HostFlaw
  | '[' :: cs => bracketFlaw? cs
  | cs => if cs.any isForbidden then some .character else none

/--
A part of an address of version 4: a number in decimal, after a zero in octal, after `0x` in hexadecimal.
-/
def partOf4? (cs : List Char) : Option Nat :=
  let read (base : Nat) (cs : List Char) : Option Nat :=
    (cs.mapM fun c => (hexDigit? c).filter (· < base)).map (ofDigits base)
  match cs with
  | [] => none
  | '0' :: 'x' :: cs => read 16 cs
  | '0' :: 'X' :: cs => read 16 cs
  | '0' :: c :: cs => read 8 (c :: cs)
  | cs => read 10 cs

/--
The labels of a name but an empty one at its end.
-/
def partsOf (labels : List (List Char)) : List (List Char) :=
  if 1 < labels.length && labels.getLast? = some [] then labels.dropLast else labels

def endsInNumber (labels : List (List Char)) : Bool :=
  match (partsOf labels).getLast? with
  | some part => (!part.isEmpty && part.all fun c => (digit? c).isSome) || (partOf4? part).isSome
  | none => false

/--
What is wrong with a name that is to be an address of version 4: up to four numbers of 8 bits, of which the
last also stands for those that are missing.
-/
def version4Flaw? (labels : List (List Char)) : Option HostFlaw :=
  match (partsOf labels).mapM partOf4? with
  | none => some .version4
  | some numbers =>
    let last := numbers.getLast?.getD 0
    if numbers.length ≤ 4 && numbers.dropLast.all (· < 256) &&
        last < Nat.pow 256 (5 - numbers.length) then none
    else some .version4

/--
What is wrong with a host on the web. Its name may be percent-encoded.
-/
def webHostFlaw? : List Char → Option HostFlaw
  | '[' :: cs => bracketFlaw? cs
  | cs =>
    match (utf8Text? (percentDecode cs)).bind fun name => Name.labels? name.toList with
    | none => some .name
    | some labels =>
      if labels = [[]] then some .empty
      else if endsInNumber labels then version4Flaw? labels
      else none

end StatusTimeline.Internet
