/-!
This module contains the targets of requests: a path on the service, or an absolute address that leads to
one.
-/

namespace StatusTimeline.Http

def isSchemeChar (c : Char) : Bool := c.isAlphanum || "+-.~".toList.contains c

/--
What follows the scheme of an absolute address and the two slashes after it.
-/
def afterScheme? (cs : List Char) : Option (List Char) :=
  match cs.dropWhile isSchemeChar with
  | ':' :: '/' :: '/' :: rest => some rest
  | _ => none

def endsHost (c : Char) : Bool := c = '/' || c = '?' || c = '#'

/--
The path of a target and its query. The scheme and the host of an absolute address do not count, nor does what
comes after a number sign. An absolute address without a path leads to the root.
-/
def pathAndQuery (target : String) : String × Option String :=
  let cs := target.toList
  let rest := match cs with
    | '/' :: _ => cs
    | _ => match afterScheme? cs with
      | some rest => rest.dropWhile (!endsHost ·)
      | none => cs
  let shown := rest.takeWhile (· ≠ '#')
  let path := shown.takeWhile (· ≠ '?')
  let query := shown.dropWhile (· ≠ '?')
  (if path.isEmpty then "/" else .ofList path,
    if query.isEmpty then none else some (.ofList (query.drop 1)))

end StatusTimeline.Http
