import StatusTimeline.Text.Blank

/-!
This module contains media types as content types name them: a type, a subtype, a suffix after the last plus
sign of the subtype, and parameters.
-/

namespace StatusTimeline.Http

/--
A media type without its parameters, in lower case.
-/
structure MediaType where
  type : String
  subtype : String
  suffix : Option String
deriving DecidableEq, Inhabited, Repr

namespace MediaType

def isTokenChar (c : Char) : Bool := c.isAlphanum || "!#$%&'*+-.^_\x60|~".toList.contains c

def isQuotedChar (c : Char) : Bool := 32 ≤ c.toNat && c.toNat < 127

def skipSpaces (cs : List Char) : List Char := cs.dropWhile (· = ' ')

/--
Read one parameter from the front and the semicolon after it: what follows, or none where that is no
parameter. A quoted value holds at least one character, which may itself be a quote.
-/
def skipParameter (cs : List Char) : Option (List Char) :=
  let name := cs.takeWhile isTokenChar
  match cs.dropWhile isTokenChar with
  | '=' :: '"' :: first :: rest =>
    if name.isEmpty || !isQuotedChar first then none
    else
      match rest.dropWhile fun c => isQuotedChar c && c ≠ '"' with
      | '"' :: rest =>
        match skipSpaces rest with
        | [] => some []
        | ';' :: rest => some rest
        | _ => none
      | _ => none
  | '=' :: rest =>
    let value := rest.takeWhile isTokenChar
    match rest.dropWhile isTokenChar with
    | [] => if name.isEmpty then none else some []
    | ';' :: rest => if name.isEmpty || value.isEmpty then none else some rest
    | _ => none
  | _ => none

/--
Whether a text is a list of parameters. Each takes at least a character.
-/
def areParameters (cs : List Char) : Bool := go (cs.length + 1) cs
where
  go : Nat → List Char → Bool
    | 0, _ => false
    | n + 1, cs =>
      match skipSpaces cs with
      | [] => true
      | cs =>
        match skipParameter cs with
        | some rest => go n rest
        | none => false

/--
Split a subtype at its last plus sign; one at the very start does not count.
-/
def splitSuffix (cs : List Char) : List Char × Option (List Char) :=
  let tail := (cs.reverse.takeWhile (· ≠ '+')).reverse
  let lead := cs.take (cs.length - tail.length - 1)
  if tail.length < cs.length && !lead.isEmpty then (lead, some tail) else (cs, none)

def ofText? (s : String) : Option MediaType :=
  let cs := (asciiLower s).toList
  let type := cs.takeWhile isTokenChar
  match cs.dropWhile isTokenChar with
  | '/' :: rest =>
    let subtype := rest.takeWhile isTokenChar
    let (lead, suffix) := splitSuffix subtype
    let parsed : MediaType := ⟨.ofList type, .ofList lead, suffix.map .ofList⟩
    if type.isEmpty then none
    else
      match rest.dropWhile isTokenChar with
      | [] => some parsed
      | ';' :: parameters =>
        if !subtype.isEmpty && areParameters parameters then some parsed else none
      | _ => none
  | _ => none

def isJson (m : MediaType) : Bool :=
  m.type = "application" && (m.subtype = "json" || m.suffix = some "json")

end MediaType

end StatusTimeline.Http
