/-!
This module contains JSON values. Members of an object keep their order and may repeat a name.
-/

namespace StatusTimeline

inductive Json where
  | null
  | bool (b : Bool)
  /-- A whole number of at most 64 bits, written without point and exponent. -/
  | int (n : Int)
  | decimal (text : String)
  | str (s : String)
  | arr (items : List Json)
  | obj (members : List (String × Json))
  /-- A scalar that the grammar allows but that stands for nothing: a text with half a surrogate pair or
  with broken UTF-8, a number beyond the range of floating point. -/
  | unreadable
  | misnamed
deriving Inhabited

namespace Json

def ofOption (f : α → Json) : Option α → Json
  | some a => f a
  | none => null

def ofNat (n : Nat) : Json := int n

/--
The value under a name that occurs in an object; of several the last.
-/
def get? (name : String) : Json → Option Json
  | obj members => (members.reverse.find? (·.1 = name)).map (·.2)
  | _ => none

mutual

def depth : Json → Nat
  | arr items => itemsDepth items + 1
  | obj members => membersDepth members + 1
  | _ => 0

def itemsDepth : List Json → Nat
  | [] => 0
  | v :: vs => max v.depth (itemsDepth vs)

def membersDepth : List (String × Json) → Nat
  | [] => 0
  | (_, v) :: ms => max v.depth (membersDepth ms)

end

mutual

def readable : Json → Bool
  | arr items => itemsReadable items
  | obj members => membersReadable members
  | unreadable => false
  | misnamed => false
  | _ => true

def itemsReadable : List Json → Bool
  | [] => true
  | v :: vs => v.readable && itemsReadable vs

def membersReadable : List (String × Json) → Bool
  | [] => true
  | (_, v) :: ms => v.readable && membersReadable ms

end

end Json

end StatusTimeline
