import StatusTimeline.Http.MediaType
import StatusTimeline.Json.Basic
import StatusTimeline.Text.Blank
import StatusTimeline.Uuid

/-!
This module contains requests and responses, and what is read from the headers of a request.
-/

namespace StatusTimeline.Http

structure Request where
  method : String
  target : String
  headers : List (String × List UInt8) := []
  body : ByteArray := .empty
deriving Inhabited

/--
A response. A body that is not JSON counts as none.
-/
structure Response where
  status : Nat
  body : Option Json := none
deriving Inhabited

def actorHeader : String := "x-statusline-actor"

namespace Response

def plain (status : Nat) : Response := { status }

def refused (status : Nat) (message : String) : Response :=
  { status, body := some (.obj [("error", .str message)]) }

end Response

namespace Request

/--
The value of the first header of a name, whatever the case of its letters.
-/
def header? (r : Request) (name : String) : Option (List UInt8) :=
  (r.headers.find? fun h => asciiLower h.1 = name).map (·.2)

/--
The text of a header value: visible ASCII characters, spaces and tabs, and nothing else.
-/
def headerText? (value : List UInt8) : Option String :=
  if value.all fun b => (32 ≤ b && b < 127) || b = 9 then
    some (.ofList (value.map fun b => Char.ofNat b.toNat))
  else none

def saysJson (r : Request) : Bool :=
  match (r.header? "content-type").bind headerText? with
  | some type => (MediaType.ofText? type).any (·.isJson)
  | none => false

/--
The caller that the request names, if any; an error when the name is no identifier.
-/
def actor (r : Request) : Except Response (Option Uuid) :=
  match r.header? actorHeader with
  | none => .ok none
  | some value =>
    match (headerText? value).bind fun s => Uuid.ofText? (trimmed s) with
    | some user => .ok (some user)
    | none => .error (.refused 400 ("invalid " ++ actorHeader ++ " header"))

end Request

end StatusTimeline.Http
