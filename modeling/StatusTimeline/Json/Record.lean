import StatusTimeline.Json.Basic
import StatusTimeline.Time.Timestamp
import StatusTimeline.Uuid

/-!
This module contains the reading of records from JSON values: a record is an object with fields of known
names, or an array of its fields in their order. Fields of other names have no effect, a known name twice
is an error.
-/

namespace StatusTimeline

/--
Why a value cannot be read as what is asked for.
-/
inductive Misfit where
  | shape
  /-- A text that holds it is refused before its shape counts. -/
  | malformed
deriving DecidableEq, Repr

abbrev Fit (α : Type) := Except Misfit α

abbrev Fields := List (String × Json)

/--
How a record is laid out: the names of its fields in order, and how many of them an array must hold at least.
-/
structure Layout where
  names : List String
  least : Nat

namespace Layout

/--
Keep the members with known names, in order. A known name that comes again, or a value that `check` refuses,
ends the reading with the misfit that is met first.
-/
def pick (names : List String) (check : String → Json → Fit Unit) :
    (picked : Fields) → List (String × Json) → Fit Fields
  | picked, [] => .ok picked.reverse
  | picked, (name, v) :: rest =>
    if name ∈ names then
      if picked.any (·.1 = name) then .error .shape
      else
        match check name v with
        | .ok _ => pick names check ((name, v) :: picked) rest
        | .error e => .error e
    else pick names check picked rest

/--
The fields of a record. `check` is applied to each field where it is met.
-/
def fieldsChecked (l : Layout) (check : String → Json → Fit Unit) : Json → Fit Fields
  | .obj members => pick l.names check [] members
  | .arr items => do
    let fields ← pick l.names check [] (l.names.zip items)
    if l.names.length < items.length then .error .malformed
    else if items.length < l.least then .error .shape
    else .ok fields
  | .unreadable => .error .malformed
  | _ => .error .shape

def fields (l : Layout) (v : Json) : Fit Fields := l.fieldsChecked (fun _ _ => .ok ()) v

end Layout

namespace Fields

def get? (fs : Fields) (name : String) : Option Json := (fs.find? (·.1 = name)).map (·.2)

def required (fs : Fields) (name : String) (read : Json → Fit α) : Fit α :=
  match fs.get? name with
  | some v => read v
  | none => .error .shape

def optional (fs : Fields) (name : String) (read : Json → Fit α) : Fit (Option α) :=
  match fs.get? name with
  | none => .ok none
  | some .null => .ok none
  | some v => (read v).map some

end Fields

namespace Json

def asParsed (parse : String → Option α) : Json → Fit α
  | str s => match parse s with
    | some a => .ok a
    | none => .error .shape
  | unreadable => .error .malformed
  | _ => .error .shape

def asText : Json → Fit String := asParsed some

def asUuid : Json → Fit Uuid := asParsed Uuid.ofText?

def asInstant : Json → Fit Instant := asParsed Instant.ofText?

/--
Read a whole number from `least` on and below `bound`.
-/
def asInt (least bound : Int) : Json → Fit Int
  | int n => if least ≤ n ∧ n < bound then .ok n else .error .shape
  | unreadable => .error .malformed
  | _ => .error .shape

def asNat (v : Json) : Fit Nat := (v.asInt 0 UInt64.size).map Int.toNat

def asList (read : Json → Fit α) : Json → Fit (List α)
  | arr items => items.mapM read
  | unreadable => .error .malformed
  | _ => .error .shape

def asOption (read : Json → Fit α) : Json → Fit (Option α)
  | null => .ok none
  | v => (read v).map some

def ofUuid (u : Uuid) : Json := str u.text

def ofInstant (t : Instant) : Json := str t.text

end Json

end StatusTimeline
