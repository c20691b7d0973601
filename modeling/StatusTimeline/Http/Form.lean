import StatusTimeline.Change
import StatusTimeline.Json.Reader
import StatusTimeline.Json.Record
import StatusTimeline.Page
import StatusTimeline.Text.Integer
import StatusTimeline.Text.Percent

/-!
This module contains what requests carry besides their path: the body of a status change, and the window of
a list in a query.
-/

namespace StatusTimeline.Http

structure StatusForm where
  statusId : Option Uuid := none
  startsAt : Option Instant := none
  rootCause : Option String := none
  createdBy : Option Uuid := none
deriving DecidableEq, Inhabited, Repr

namespace StatusForm

/--
The fields of the body. An array may leave out any at its end.
-/
def layout : Layout where
  names := ["status_id", "starts_at", "root_cause", "created_by_user_id"]
  least := 0

def check (name : String) (v : Json) : Fit Unit :=
  match name with
  | "status_id" => (Json.asOption Json.asUuid v).map fun _ => ()
  | "starts_at" => (Json.asOption Json.asInstant v).map fun _ => ()
  | "root_cause" => (Json.asOption Json.asText v).map fun _ => ()
  | _ => (Json.asOption Json.asUuid v).map fun _ => ()

def ofJson (v : Json) : Fit StatusForm := do
  let fs ← layout.fieldsChecked check v
  return {
    statusId := ← fs.optional "status_id" Json.asUuid
    startsAt := ← fs.optional "starts_at" Json.asInstant
    rootCause := ← fs.optional "root_cause" Json.asText
    createdBy := ← fs.optional "created_by_user_id" Json.asUuid }

/--
Read the body from its first value; what follows that does not count. Where the text breaks off or is
wrong, a misfit in what comes before is met first.
-/
def ofBytes (bytes : List UInt8) : Fit StatusForm :=
  match Json.read bytes with
  | .whole v _ => ofJson v
  | .broken none => .error .malformed
  | .broken (some v) =>
    match ofJson v with
    | .error e => .error e
    | .ok _ => .error .malformed

def toRequest (f : StatusForm) (monitor : Uuid) (actor : Option Uuid) : ChangeRequest where
  monitorId := some monitor
  statusId := f.statusId
  startsAt := f.startsAt
  rootCause := f.rootCause
  createdBy := f.createdBy
  actor := actor

end StatusForm

/--
The number of 64 bits that a query gives under a name, which it must not give twice.
-/
def queryNumber? (pairs : List (List UInt8 × List UInt8)) (name : String) : Option (Option Int) :=
  match pairs.filter (·.1 = name.toUTF8.toList) with
  | [] => some none
  | [(_, value)] => (signed64? (value.map fun b => Char.ofNat b.toNat)).map some
  | _ => none

def pageQuery? (query : String) : Option PageQuery := do
  let pairs := formPairs query
  let limit ← queryNumber? pairs "limit"
  let offset ← queryNumber? pairs "offset"
  return { limit, offset }

end StatusTimeline.Http
