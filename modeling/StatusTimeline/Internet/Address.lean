import StatusTimeline.Text.Digits

/-!
This module contains the reading of Internet addresses of both versions: four numbers of 8 bits with points
between them, or eight of 16 bits with colons between them, of which zeros may be left out.
-/

namespace StatusTimeline.Internet

def skipChar (c : Char) : List Char → Option (List Char)
  | d :: rest => if d = c then some rest else none
  | [] => none

/--
Read a number below a bound from the front, in all the digits that are there.
-/
def takeBelow (bound : Nat) (cs : List Char) : Option (Nat × List Char) := do
  let (n, rest) ← takeNumber cs.length cs
  if n < bound then some (n, rest) else none

/--
Read a byte in decimal from the front, without needless zeros.
-/
def takeByte (cs : List Char) : Option (Nat × List Char) := do
  let (n, rest) ← takeBelow 256 cs
  if cs.length - rest.length = n.repr.length then some (n, rest) else none

def takeVersion4 (cs : List Char) : Option (List Nat × List Char) := do
  let (a, cs) ← takeByte cs
  let (b, cs) ← takeByte (← skipChar '.' cs)
  let (c, cs) ← takeByte (← skipChar '.' cs)
  let (d, cs) ← takeByte (← skipChar '.' cs)
  return ([a, b, c, d], cs)

def takeGroup (cs : List Char) : Option (Nat × List Char) :=
  let digits := cs.takeWhile fun c => (hexDigit? c).isSome
  if digits.isEmpty || 4 < digits.length then none
  else (digits.mapM hexDigit?).map fun ds => (ofDigits 16 ds, cs.drop digits.length)

/--
Read as many groups from the front as there are, up to `most`, with colons between them, and tell whether
the last two were written as an address of version 4.
-/
def takeGroups (first : Bool) : (most : Nat) → List Char → List Nat × Bool × List Char
  | 0, cs => ([], false, cs)
  | most + 1, cs =>
    let inner := if first then some cs else skipChar ':' cs
    let embedded := if most = 0 then none else inner.bind takeVersion4
    match embedded with
    | some ([a, b, c, d], rest) => ([a * 256 + b, c * 256 + d], true, rest)
    | _ =>
      match inner.bind takeGroup with
      | none => ([], false, cs)
      | some (group, rest) =>
        let (groups, dotted, rest) := takeGroups false most rest
        (group :: groups, dotted, rest)

/--
Read an address of version 6 from the front. Two colons stand for as many groups of zero as are missing, and
for at least one.
-/
def takeVersion6 (cs : List Char) : Option (List Nat × List Char) :=
  match takeGroups true 8 cs with
  | (head, dotted, rest) =>
    if head.length = 8 then some (head, rest)
    else if dotted then none
    else do
      let rest ← skipChar ':' (← skipChar ':' rest)
      let (tail, _, rest) := takeGroups true (7 - head.length) rest
      return (head ++ List.replicate (8 - head.length - tail.length) 0 ++ tail, rest)

def isAddress (s : String) : Bool :=
  match takeVersion4 s.toList <|> takeVersion6 s.toList with
  | some (_, rest) => rest.isEmpty
  | none => false

end StatusTimeline.Internet
