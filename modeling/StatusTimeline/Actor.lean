import StatusTimeline.Uuid

/-!
This module contains the users on whose behalf statuses change, and a directory of them.
-/

namespace StatusTimeline

structure Actor where
  name : String
  email : String
deriving DecidableEq, Inhabited, Repr

def Actor.rootCause (a : Actor) : String :=
  "Monitor status created by " ++ a.name ++ " (" ++ a.email ++ ")"

/--
Users by their identifiers; a later entry replaces an earlier one.
-/
structure Directory where
  entries : List (Uuid × Actor) := []
deriving Inhabited

namespace Directory

def find? (d : Directory) (user : Uuid) : Option Actor :=
  (d.entries.reverse.find? (·.1 = user)).map (·.2)

end Directory

end StatusTimeline
