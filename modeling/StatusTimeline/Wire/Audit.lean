import StatusTimeline.Audit
import StatusTimeline.Json.Record

/-!
This module contains the JSON forms of violations and audit reports. A violation names its kind in a field
of its own, so its other fields are read only after all of it has been seen.
-/

namespace StatusTimeline

namespace Violation

def kindName : String := "kind"

def layouts : List (String × List String) :=
  [("no_open_interval", []), ("multiple_open", ["interval_ids"]), ("open_not_last", ["interval_id"]),
    ("gap", ["before", "after", "from", "to"]),
    ("overlap", ["before", "after", "ends_at", "next_starts_at"])]

def toJson : Violation → Json
  | noOpenInterval => .obj [(kindName, .str "no_open_interval")]
  | multipleOpen ids =>
    .obj [(kindName, .str "multiple_open"), ("interval_ids", .arr (ids.map .ofUuid))]
  | openNotLast id => .obj [(kindName, .str "open_not_last"), ("interval_id", .ofUuid id)]
  | gap before after endsAt nextStartsAt =>
    .obj [(kindName, .str "gap"), ("before", .ofUuid before), ("after", .ofUuid after),
      ("from", .ofInstant endsAt), ("to", .ofInstant nextStartsAt)]
  | overlap before after endsAt nextStartsAt =>
    .obj [(kindName, .str "overlap"), ("before", .ofUuid before), ("after", .ofUuid after),
      ("ends_at", .ofInstant endsAt), ("next_starts_at", .ofInstant nextStartsAt)]

def ofFields (kind : String) (content : Json) : Fit Violation := do
  let some (_, names) := layouts.find? (·.1 = kind) | .error .shape
  if names.isEmpty then
    match content with
    | .arr (_ :: _) => .error .shape
    | _ => return noOpenInterval
  else
    let fs ← Layout.fields ⟨names, names.length⟩ content
    match kind with
    | "multiple_open" => return multipleOpen (← fs.required "interval_ids" (Json.asList Json.asUuid))
    | "open_not_last" => return openNotLast (← fs.required "interval_id" Json.asUuid)
    | "gap" =>
      return gap (← fs.required "before" Json.asUuid) (← fs.required "after" Json.asUuid)
        (← fs.required "from" Json.asInstant) (← fs.required "to" Json.asInstant)
    | _ =>
      return overlap (← fs.required "before" Json.asUuid) (← fs.required "after" Json.asUuid)
        (← fs.required "ends_at" Json.asInstant) (← fs.required "next_starts_at" Json.asInstant)

/--
How deep arrays and objects may nest around a value that is kept, the value included.
-/
def deepest : Nat := 127

/--
Read a violation that lies in so many arrays and objects: an object with one kind among its fields, or an array
that starts with the kind. All of it must be readable, fields without effect included.
-/
def ofJsonWithin (enclosing : Nat) (v : Json) : Fit Violation := do
  if !v.readable || deepest < enclosing + v.depth then .error .malformed
  else
    match v with
    | .obj members =>
      match members.filter (·.1 = kindName) with
      | [(_, kind)] => ofFields (← kind.asText) (.obj (members.filter (·.1 ≠ kindName)))
      | _ => .error .shape
    | .arr (kind :: items) => ofFields (← kind.asText) (.arr items)
    | _ => .error .shape

def ofJson (v : Json) : Fit Violation := ofJsonWithin 0 v

end Violation

namespace AuditReport

def layout : Layout where
  names := ["interval_count", "open_interval", "violations"]
  least := 3

def toJson (r : AuditReport) : Json :=
  .obj [("interval_count", .ofNat r.intervalCount), ("open_interval", .ofOption .ofUuid r.openInterval),
    ("violations", .arr (r.violations.map Violation.toJson))]

/--
Read an audit report. Its violations lie in its list of them.
-/
def ofJson (v : Json) : Fit AuditReport := do
  let fs ← layout.fields v
  return {
    intervalCount := ← fs.required "interval_count" Json.asNat
    openInterval := ← fs.optional "open_interval" Json.asUuid
    violations := ← fs.required "violations" (Json.asList (Violation.ofJsonWithin 2)) }

end AuditReport

end StatusTimeline
