/-!
This module contains the paths that the service knows.
-/

namespace StatusTimeline.Http

/--
What a path leads to. Identifiers are as the path gives them.
-/
inductive Route where
  | health
  | statuses (monitor : String)
  | timeline (monitor : String)
  | audit (monitor : String)
  | interval (id : String)
deriving DecidableEq, Inhabited, Repr

namespace Route

/--
The segments of a path, with a slash between one and the next.
-/
def segments : List Char → List (List Char)
  | [] => [[]]
  | c :: cs =>
    if c = '/' then [] :: segments cs
    else
      match segments cs with
      | [] => [[c]]
      | segment :: rest => (c :: segment) :: rest

/--
The route of a path. An identifier at the end of a path is not empty.
-/
def ofPath? (path : String) : Option Route :=
  match (segments path.toList).map String.ofList with
  | ["", "health"] => some health
  | ["", "v1", "monitors", monitor, "statuses"] => some (statuses monitor)
  | ["", "v1", "monitors", monitor, "timeline"] => some (timeline monitor)
  | ["", "v1", "monitors", monitor, "audit"] => some (audit monitor)
  | ["", "v1", "intervals", id] => if id = "" then none else some (interval id)
  | _ => none

end Route

end StatusTimeline.Http
