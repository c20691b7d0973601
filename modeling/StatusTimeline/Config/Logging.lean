import StatusTimeline.Config.Pattern
import StatusTimeline.Text.Alphanumeric
import StatusTimeline.Text.Blank
import StatusTimeline.Text.Integer

/-!
This module contains the choice of a log filter: the one that the environment gives when it is a filter,
else one made of a level. A filter is a list of directives. A directive is a level alone, or what it is
about, the target and the span of a message, followed by a level or by nothing: `crate[span{field}]=level`.

Blanks around a directive are left out when its signs are looked for, but its parts are taken from the
directive with them, so many bytes from its front.
-/

namespace StatusTimeline.Logging

/--
The filter for a level: the service logs at that level, statements to the database as warnings only. A
blank level counts as none.
-/
def directives (level : Option String) : String :=
  let level := ((level.map trimmed).filter (· ≠ "")).getD "info"
  level ++ ",statusline_timeline=" ++ level ++ ",statusline_core=" ++ level ++ ",sqlx=warn"

inductive Flaw where
  /-- There is no filter, or logging has started before. -/
  | refused
  | broken
deriving DecidableEq, Inhabited, Repr

def expect (condition : Bool) : Except Flaw Unit :=
  if condition then .ok () else .error .refused

def cutBytes : Nat → List Char → Except Flaw (List Char × List Char)
  | 0, cs => .ok ([], cs)
  | _, [] => .error .broken
  | n, c :: cs =>
    if c.utf8Size ≤ n then (cutBytes (n - c.utf8Size) cs).map fun (front, rest) => (c :: front, rest)
    else .error .broken

def rest (raw : List Char) (first : Nat) : Except Flaw (List Char) :=
  (cutBytes first raw).map (·.2)

def part (raw : List Char) (first last : Nat) : Except Flaw (List Char) := do
  let (front, _) ← cutBytes (last - first) (← rest raw first)
  return front

/--
Whether the text behind the equals sign of a directive names a level: a number up to five, a name in any
case, or nothing.
-/
def isLevel (cs : List Char) : Bool :=
  cs.isEmpty || (naturalBelow? 6 cs).isSome ||
    ["off", "error", "warn", "info", "debug", "trace"].contains (asciiLower (String.ofList cs))

/--
Whether a text is a number behind a plus sign: in decimal notation with or without an exponent, or infinite,
or not a number.
-/
def isSignedNumber : List Char → Bool
  | '+' :: cs =>
    let (whole, behind) := cs.span Char.isDigit
    let (fraction, behind) := match behind with
      | '.' :: behind => behind.span Char.isDigit
      | _ => ([], behind)
    let isExponent := match behind with
      | [] => true
      | c :: digits =>
        let digits := match digits with
          | '+' :: digits => digits
          | '-' :: digits => digits
          | digits => digits
        c.toLower = 'e' && !digits.isEmpty && digits.all Char.isDigit
    !(whole.isEmpty && fraction.isEmpty) && isExponent ||
      ["inf", "infinity", "nan"].contains (asciiLower (String.ofList cs))
  | _ => false

/--
Whether a text describes a field: its name, and behind an equals sign what its value is compared with. A
second equals sign ends that.
-/
def isField (cs : List Char) : Bool :=
  let (_, behind) := cs.span (· ≠ '=')
  let value := (behind.drop 1).takeWhile (· ≠ '=')
  !cs.isEmpty && (isSignedNumber value || isPattern value)

def readAfterSpan (raw : List Char) (place : Nat) : List Char → Except Flaw Unit
  | [] => .ok ()
  | c :: _ => do
    expect (c = '=')
    expect (isLevel (← rest raw (place + 1)))

/--
Read a directive behind the brace that opens the fields of its span, at `first`. There is a field, and the
brace that closes the fields also ends the span.
-/
def readFields (raw : List Char) (first place : Nat) : List Char → Except Flaw Unit
  | [] => .error .refused
  | '}' :: cs => do
    expect (isField (← part raw first place))
    expect (cs.head? = some ']')
    readAfterSpan raw (place + 2) (cs.drop 1)
  | c :: cs => readFields raw first (place + c.utf8Size) cs

/--
Read a directive behind the bracket that opens its span, at `first`. A span need not have a name.
-/
def readSpan (raw : List Char) (first place : Nat) : List Char → Except Flaw Unit
  | [] => .error .refused
  | ']' :: cs => do
    let _ ← part raw first place
    readAfterSpan raw (place + 1) cs
  | '{' :: cs => do
    let _ ← part raw first place
    readFields raw (place + 1) (place + 1) cs
  | c :: cs => readSpan raw first (place + c.utf8Size) cs

/--
Read a directive within its target. A directive without a level and without a span is either a level alone
or a target alone.
-/
def readTarget (raw : List Char) (place : Nat) : List Char → Except Flaw Unit
  | [] => .ok ()
  | '=' :: _ => do
    let _ ← part raw 0 place
    expect (isLevel (← rest raw (place + 1)))
  | '[' :: cs => do
    let _ ← part raw 0 place
    readSpan raw (place + 1) (place + 1) cs
  | c :: cs => readTarget raw (place + c.utf8Size) cs

def isTargetStart (c : Char) : Bool :=
  isAlphanumeric c || ['-', ':', '_'].contains c

def readDirective (raw : List Char) : Except Flaw Unit :=
  match trimBlanks raw with
  | [] => .error .refused
  | '[' :: cs => readSpan raw 1 1 cs
  | c :: cs => do
    expect (isTargetStart c)
    readTarget raw c.utf8Size cs

/--
Read a filter: each text between its commas is empty or a directive.
-/
def readFilter (s : String) : Except Flaw Unit :=
  (s.splitOn ",").forM fun directive =>
    if directive = "" then .ok () else readDirective directive.toList

/--
The filter in force: the environment's unless it is refused, else that of the level.
-/
def choose (given : Option String) (level : Option String) : Except Flaw String :=
  match given.map fun filter => (filter, readFilter filter) with
  | some (filter, .ok ()) => .ok filter
  | some (_, .error .broken) => .error .broken
  | _ => (readFilter (directives level)).map fun _ => directives level

def start (started : Bool) (given : Option String) (level : Option String) : Except Flaw Unit := do
  let _ ← choose given level
  expect (!started)

end StatusTimeline.Logging
