import StatusTimeline.Json.Basic
import StatusTimeline.Text.Digits

/-!
This module contains the writing of JSON values, without blanks.
-/

namespace StatusTimeline.Json

/--
Write one character of a text: quotes, backslashes and control characters are escaped.
-/
def escapedChar (c : Char) : List Char :=
  if c = '"' then ['\\', '"']
  else if c = '\\' then ['\\', '\\']
  else if c = '\n' then ['\\', 'n']
  else if c = '\r' then ['\\', 'r']
  else if c = '\t' then ['\\', 't']
  else if c.toNat < 0x20 then '\\' :: 'u' :: fixedText 16 4 c.toNat
  else [c]

def quoted (s : String) : String :=
  s.foldl (fun out c => (escapedChar c).foldl String.push out) "\"" |>.push '"'

mutual

def write (out : String) : Json → String
  | null => out ++ "null"
  | bool true => out ++ "true"
  | bool false => out ++ "false"
  | int n => out ++ toString n
  | decimal text => out ++ text
  | str s => out ++ quoted s
  | arr items => (writeItems (out.push '[') "" items).push ']'
  | obj members => (writeMembers (out.push '\x7b') "" members).push '\x7d'
  | unreadable => out ++ "null"
  | misnamed => out ++ "null"

/--
Append the texts of the values of an array, the first after `gap` and the others after a comma.
-/
def writeItems (out gap : String) : List Json → String
  | [] => out
  | v :: vs => writeItems (write (out ++ gap) v) "," vs

/--
Append the texts of the members of an object, the first after `gap` and the others after a comma.
-/
def writeMembers (out gap : String) : List (String × Json) → String
  | [] => out
  | (name, v) :: ms => writeMembers (write (out ++ gap ++ quoted name ++ ":") v) "," ms

end

def text (v : Json) : String := write "" v

end StatusTimeline.Json
