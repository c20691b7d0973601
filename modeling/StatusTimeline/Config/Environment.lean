import StatusTimeline.Error
import StatusTimeline.Text.Blank
import StatusTimeline.Text.Integer

/-!
This module contains the reading of settings from environment variables.
-/

namespace StatusTimeline

/--
The variables of an environment whose values are texts. A value that is no text counts as unset.
-/
structure Environment where
  lookup : String → Option String

namespace Environment

def ofList (values : List (String × String)) : Environment where
  lookup key := (values.find? (·.1 = key)).map (·.2)

/--
Read a variable, blanks at its ends ignored; `default` when it is unset.
-/
def getOr (env : Environment) (key : String) (parse : String → Option α) (default : α) :
    Except ConfigError α :=
  match env.lookup key with
  | none => .ok default
  | some value =>
    match parse (trimmed value) with
    | some a => .ok a
    | none => .error (.invalid key value)

def natural32? (s : String) : Option Nat := naturalBelow? UInt32.size s.toList

def natural64? (s : String) : Option Nat := naturalBelow? UInt64.size s.toList

def integer64? (s : String) : Option Int := signed64? s.toList

def truth? (s : String) : Option Bool :=
  if s = "true" then some true else if s = "false" then some false else none

end Environment

end StatusTimeline
