import StatusTimeline.Json.Token

/-!
This module contains the reading of a JSON value from the bytes of a text. `Json.read` keeps a stack of the
arrays and objects that are still open, so that it can tell what it has seen when the text breaks off.
-/

namespace StatusTimeline.Json

/--
An array or object that is still open, its parts last first. An object also keeps the name whose value is
to come, and whether one of its names was unreadable.
-/
inductive Frame where
  | array (items : List Json)
  | object (members : List (String × Json)) (name : Option String) (misnamed : Bool)

inductive Expected where
  | value
  | valueOrEnd
  | name
  | nameOrEnd
  | colon
  | commaOrEnd
deriving DecidableEq

/--
The arrays and objects that are open, innermost first, and what may come next.
-/
structure Progress where
  frames : List Frame := []
  expected : Expected := .value

/--
What reading a text comes to: a value and the bytes behind it, or a break, and then the part of the value
that was seen before it.
-/
inductive Reading where
  | whole (v : Json) (rest : List UInt8)
  | broken (seen : Option Json)

namespace Frame

def close : Frame → Json
  | array items => arr items.reverse
  | object _ _ true => misnamed
  | object members _ false => obj members.reverse

def add (v : Json) : Frame → Frame
  | array items => array (v :: items)
  | object members (some name) m => object ((name, v) :: members) none m
  | object members none m => object members none m

/--
The value of a frame whose text breaks off: a name without a value counts as a member.
-/
def closeBroken : Frame → Json
  | object members (some name) m => close (object ((name, null) :: members) none m)
  | frame => frame.close

end Frame

def seen : List Frame → Option Json
  | [] => none
  | inner :: outer => some (outer.foldl (fun v frame => (frame.add v).close) inner.closeBroken)

inductive Step where
  | more (p : Progress)
  | finished (v : Json)
  | wrong

def Progress.put (p : Progress) (v : Json) : Step :=
  match p.frames with
  | [] => .finished v
  | frame :: outer => .more { frames := frame.add v :: outer, expected := .commaOrEnd }

def Progress.pop (p : Progress) : Step :=
  match p.frames with
  | [] => .wrong
  | frame :: outer => Progress.put { frames := outer } frame.close

def Progress.startValue (p : Progress) : Token → Step
  | .openObject => .more { frames := .object [] none false :: p.frames, expected := .nameOrEnd }
  | .openArray => .more { frames := .array [] :: p.frames, expected := .valueOrEnd }
  | .text (some s) => p.put (str s)
  | .text none => p.put unreadable
  | .scalar v => p.put v
  | _ => .wrong

/--
Take in the name of a member. An unreadable name breaks the outermost object at once; an inner one is
only marked.
-/
def Progress.takeName (p : Progress) (name : Option String) : Step :=
  match p.frames, name with
  | .object members _ m :: outer, some name =>
    .more { frames := .object members (some name) m :: outer, expected := .colon }
  | [.object _ _ _], none => .wrong
  | .object members _ _ :: outer, none =>
    .more { frames := .object members (some "") true :: outer, expected := .colon }
  | _, _ => .wrong

def Progress.step (p : Progress) (t : Token) : Step :=
  match p.expected, t with
  | .valueOrEnd, .closeArray => p.pop
  | .valueOrEnd, t => p.startValue t
  | .value, t => p.startValue t
  | .nameOrEnd, .closeObject => p.pop
  | .nameOrEnd, .text name => p.takeName name
  | .name, .text name => p.takeName name
  | .colon, .colon => .more { p with expected := .value }
  | .commaOrEnd, .comma =>
    match p.frames with
    | .array _ :: _ => .more { p with expected := .value }
    | .object _ _ _ :: _ => .more { p with expected := .name }
    | [] => .wrong
  | .commaOrEnd, .closeArray =>
    match p.frames with
    | .array _ :: _ => p.pop
    | _ => .wrong
  | .commaOrEnd, .closeObject =>
    match p.frames with
    | .object _ _ _ :: _ => p.pop
    | _ => .wrong
  | _, _ => .wrong

/--
Read the first value of a text. Every token takes at least a byte.
-/
def read (bs : List UInt8) : Reading :=
  go (bs.length + 1) {} bs
where
  go : Nat → Progress → List UInt8 → Reading
    | 0, p, _ => .broken (seen p.frames)
    | n + 1, p, bs =>
      match nextToken bs with
      | none => .broken (seen p.frames)
      | some (t, rest) =>
        match p.step t with
        | .more p => go n p rest
        | .finished v => .whole v rest
        | .wrong => .broken (seen p.frames)

/--
Read a text that holds one value and nothing else but blanks.
-/
def ofBytes? (bs : List UInt8) : Option Json :=
  match read bs with
  | .whole v rest => if rest.all isGap then some v else none
  | .broken _ => none

@[inherit_doc ofBytes?]
def ofText? (s : String) : Option Json := ofBytes? s.toUTF8.toList

end StatusTimeline.Json
