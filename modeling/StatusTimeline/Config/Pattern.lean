import StatusTimeline.Text.Alphanumeric
import StatusTimeline.Text.Blank
import StatusTimeline.Text.Ranges

/-!
This module contains the patterns that the values of fields are compared with: regular expressions without
the properties of Unicode, so that there are neither classes of letters or digits of all scripts, nor
boundaries of their words, nor capitals taken for small letters, unless a pattern keeps to ASCII by the flag
`-u`.
-/

namespace StatusTimeline.Logging

namespace Pattern

structure Mode where
  ignoresCase : Bool := false
  isVerbose : Bool := false
  keepsToAscii : Bool := false
deriving DecidableEq, Inhabited, Repr

namespace Mode

/--
Whether characters can be compared: without regard to case, only those of ASCII can.
-/
def compares (m : Mode) : Bool := !m.ignoresCase || m.keepsToAscii

def set (m : Mode) (flag : Char) (value : Bool) : Mode :=
  match flag with
  | 'i' => { m with ignoresCase := value }
  | 'x' => { m with isVerbose := value }
  | 'u' => { m with keepsToAscii := !value }
  | _ => m

end Mode

inductive Escape where
  | literal (code : Nat)
  | set
  | assertion
deriving DecidableEq, Inhabited, Repr

def takeCode (digits : Nat) (cs : List Char) : Option (Nat × List Char) := do
  let ds ← (cs.take digits).mapM hexDigit?
  let code := ofDigits 16 ds
  if ds.length = digits && code.isValidChar then some (code, cs.drop digits) else none

def takeEscape (m : Mode) : List Char → Option (Escape × List Char)
  | [] => none
  | 'x' :: cs => do
    let (code, rest) ← takeCode 2 cs
    if m.keepsToAscii && 128 ≤ code then none else some (.literal code, rest)
  | 'u' :: cs => (takeCode 4 cs).map fun (code, rest) => (.literal code, rest)
  | 'U' :: cs => (takeCode 8 cs).map fun (code, rest) => (.literal code, rest)
  | c :: cs =>
    if "dsw".toList.contains c then if m.keepsToAscii then some (.set, cs) else none
    else if "bB<>".toList.contains c then if m.keepsToAscii then some (.assertion, cs) else none
    else if "Az".toList.contains c then some (.assertion, cs)
    else
      match "afnrtv".toList.zip [7, 12, 10, 13, 9, 11] |>.lookup c with
      | some code => some (.literal code, cs)
      | none => if c.toNat < 128 && !c.isAlphanum then some (.literal c.toNat, cs) else none

def classNames : List String :=
  ["alnum", "alpha", "ascii", "blank", "cntrl", "digit", "graph", "lower", "print", "punct", "space",
    "upper", "word", "xdigit"]

def takeClassName (m : Mode) (cs : List Char) : Option (List Char) :=
  match cs with
  | ':' :: cs =>
    let isNegated := cs.head? = some '^'
    let (name, rest) := cut ':' (if isNegated then cs.drop 1 else cs)
    match rest with
    | ']' :: rest =>
      if classNames.contains (.ofList name) && !(isNegated && m.keepsToAscii) then some rest else none
    | _ => none
  | _ => none

/--
Leave blanks and comments out where they do not count.
-/
def skipSpace (m : Mode) : List Char → List Char
  | [] => []
  | c :: cs =>
    if !m.isVerbose then c :: cs
    else if isBlank c then skipSpace m cs
    else if c = '#' then skipComment m cs
    else c :: cs
where
  skipComment (m : Mode) : List Char → List Char
    | [] => []
    | '\n' :: cs => skipSpace m cs
    | _ :: cs => skipComment m cs

/--
Read one item of a set of characters: its code point when it is a single character.
-/
def takeItem (m : Mode) : List Char → Option (Option Nat × List Char)
  | [] => none
  | '\\' :: cs =>
    match takeEscape m cs with
    | some (.literal code, rest) => some (some code, rest)
    | some (.set, rest) => some (none, rest)
    | _ => none
  | c :: cs => some (some c.toNat, cs)

/--
Begin a set behind its bracket: hyphens and a bracket that closes stand for themselves there.
-/
def beginSet (m : Mode) (cs : List Char) : Option (List Char) :=
  let cs := skipSpace m cs
  let isNegated := cs.head? = some '^'
  let cs := skipSpace m (if isNegated then cs.drop 1 else cs)
  let rest := cs.dropWhile (· = '-')
  if isNegated && m.keepsToAscii then none
  else if rest.length = cs.length && cs.head? = some ']' then some (cs.drop 1)
  else some rest

/--
Read the rest of a set within so many others, in so many steps.
-/
def takeSet (m : Mode) : (steps depth : Nat) → List Char → Option (List Char)
  | 0, _, _ => none
  | steps + 1, depth, cs =>
    match skipSpace m cs with
    | [] => none
    | '[' :: cs =>
      match takeClassName m cs with
      | some rest => takeSet m steps depth rest
      | none => (beginSet m cs).bind (takeSet m steps (depth + 1))
    | ']' :: cs => if depth = 0 then some cs else takeSet m steps (depth - 1) cs
    | '&' :: '&' :: cs => takeSet m steps depth cs
    | '-' :: '-' :: cs => takeSet m steps depth cs
    | '~' :: '~' :: cs => takeSet m steps depth cs
    | cs => do
      let (first, rest) ← takeItem m cs
      match skipSpace m rest with
      | '-' :: after =>
        if [some ']', some '-'].contains (skipSpace m after).head? then takeSet m steps depth rest
        else
          let (last, rest) ← takeItem m (skipSpace m after)
          if (← first) ≤ (← last) then takeSet m steps depth rest else none
      | _ => takeSet m steps depth rest

/--
Read flags, each given or taken back at most once, and the sign that ends them. A minus sign stands before
the flags that are taken back.
-/
def takeFlags (m : Mode) (seen : List Char) (value : Bool) : List Char → Option (Mode × List Char)
  | [] => none
  | c :: cs =>
    if c = ':' || c = ')' then
      if seen.head? = some '-' then none else some (m, c :: cs)
    else if seen.contains c || !"imsURux-".toList.contains c then none
    else takeFlags (m.set c value) (c :: seen) (value && c ≠ '-') cs

def takeGroupName (cs : List Char) : Option (List Char × List Char) :=
  let (name, rest) := (cs.takeWhile (· ≠ '>'), cs.dropWhile (· ≠ '>'))
  match name, rest with
  | c :: cs, _ :: rest =>
    if (c = '_' || (isAlphanumeric c && !c.isDigit)) &&
        cs.all fun c => isAlphanumeric c || "_.[]".toList.contains c then some (name, rest)
    else none
  | _, _ => none

/--
How far a pattern has been read: the flags in force, those of the open groups around, whether there is
something to repeat, and the names of groups.
-/
structure State where
  mode : Mode := {}
  groups : List Mode := []
  repeatable : Bool := false
  names : List (List Char) := []
deriving Inhabited, Repr

namespace State

def behind (s : State) : State := { s with repeatable := true }

def opened (s : State) (m : Mode) : State :=
  { s with mode := m, groups := s.mode :: s.groups, repeatable := false }

end State

/--
Open a group behind its parenthesis, or set flags. The flags of a group end with it.
-/
def openGroup (s : State) : List Char → Option (State × List Char)
  | '?' :: cs =>
    let named := match cs with
      | 'P' :: '<' :: cs => some cs
      | '<' :: cs => some cs
      | _ => none
    match named with
    | some cs => do
      let (name, rest) ← takeGroupName cs
      if s.names.contains name then none
      else some ({ s.opened s.mode with names := name :: s.names }, rest)
    | none => do
      let (m, rest) ← takeFlags s.mode [] true cs
      match rest with
      | ':' :: rest => some (s.opened m, rest)
      | _ :: rest =>
        if cs.head? = some ')' then none else some ({ s with mode := m, repeatable := false }, rest)
      | [] => none
  | cs => some (s.opened s.mode, cs)

/--
Whether a pattern may go on like this, in so many steps. What repeats a number of times cannot be written in a
field, where a brace ends the fields.
-/
def goesOn : (steps : Nat) → State → List Char → Bool
  | 0, _, _ => false
  | steps + 1, s, cs =>
    match skipSpace s.mode cs with
    | [] => s.groups.isEmpty
    | '(' :: cs =>
      match openGroup s cs with
      | some (s, rest) => goesOn steps s rest
      | none => false
    | ')' :: cs =>
      match s.groups with
      | [] => false
      | m :: groups => goesOn steps { s with mode := m, groups, repeatable := true } cs
    | '|' :: cs => goesOn steps { s with repeatable := false } cs
    | '[' :: cs =>
      match (beginSet s.mode cs).bind (takeSet s.mode steps 0) with
      | some rest => s.mode.compares && goesOn steps s.behind rest
      | none => false
    | '{' :: _ => false
    | '\\' :: cs =>
      match takeEscape s.mode cs with
      | some (.literal _, rest) => s.mode.compares && goesOn steps s.behind rest
      | some (_, rest) => goesOn steps s.behind rest
      | none => false
    | '.' :: cs => !s.mode.keepsToAscii && goesOn steps s.behind cs
    | '^' :: cs => goesOn steps s.behind cs
    | '$' :: cs => goesOn steps s.behind cs
    | c :: cs =>
      if "*+?".toList.contains c then
        s.repeatable && goesOn steps s (if cs.head? = some '?' then cs.drop 1 else cs)
      else s.mode.compares && goesOn steps s.behind cs

end Pattern

def isPattern (cs : List Char) : Bool := Pattern.goesOn (2 * cs.length + 1) {} cs

end StatusTimeline.Logging
