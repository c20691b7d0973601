import StatusTimeline.Actor
import StatusTimeline.Change
import StatusTimeline.Json.Record
import StatusTimeline.Page
import StatusTimeline.Text.Integer

/-!
This module contains the JSON forms of intervals, requests, results, actors and page windows: for each type
`toJson` writes a value and `ofJson` reads it.
-/

namespace StatusTimeline

namespace Interval

/--
The fields of an interval. An array may leave out the last two.
-/
def layout : Layout where
  names := ["id", "monitor_id", "status_id", "starts_at", "ends_at", "created_at", "root_cause",
    "created_by_user_id"]
  least := 6

/--
Write an interval. An open one has a null end; the root cause and the creator are left out when there is
none.
-/
def toJson (i : Interval) : Json :=
  .obj ([("id", .ofUuid i.id), ("monitor_id", .ofUuid i.monitorId), ("status_id", .ofUuid i.statusId),
    ("starts_at", .ofInstant i.startsAt), ("ends_at", .ofOption .ofInstant i.endsAt),
    ("created_at", .ofInstant i.createdAt)] ++
    (i.rootCause.map fun s => ("root_cause", Json.str s)).toList ++
    (i.createdBy.map fun u => ("created_by_user_id", Json.ofUuid u)).toList)

def ofJson (v : Json) : Fit Interval := do
  let fs ← layout.fields v
  return {
    id := ← fs.required "id" Json.asUuid
    monitorId := ← fs.required "monitor_id" Json.asUuid
    statusId := ← fs.required "status_id" Json.asUuid
    startsAt := ← fs.required "starts_at" Json.asInstant
    endsAt := ← fs.optional "ends_at" Json.asInstant
    createdAt := ← fs.required "created_at" Json.asInstant
    rootCause := ← fs.optional "root_cause" Json.asText
    createdBy := ← fs.optional "created_by_user_id" Json.asUuid }

end Interval

namespace NewInterval

/--
The fields of a new interval. An array may leave out the last three.
-/
def layout : Layout where
  names := ["monitor_id", "status_id", "starts_at", "root_cause", "created_by_user_id"]
  least := 2

def toJson (n : NewInterval) : Json :=
  .obj [("monitor_id", .ofUuid n.monitorId), ("status_id", .ofUuid n.statusId),
    ("starts_at", .ofOption .ofInstant n.startsAt), ("root_cause", .ofOption .str n.rootCause),
    ("created_by_user_id", .ofOption .ofUuid n.createdBy)]

def ofJson (v : Json) : Fit NewInterval := do
  let fs ← layout.fields v
  return {
    monitorId := ← fs.required "monitor_id" Json.asUuid
    statusId := ← fs.required "status_id" Json.asUuid
    startsAt := ← fs.optional "starts_at" Json.asInstant
    rootCause := ← fs.optional "root_cause" Json.asText
    createdBy := ← fs.optional "created_by_user_id" Json.asUuid }

end NewInterval

namespace ChangeRequest

/--
The fields of a request. An array may leave out any at its end.
-/
def layout : Layout where
  names := ["monitor_id", "status_id", "starts_at", "root_cause", "created_by_user_id", "actor"]
  least := 0

def toJson (r : ChangeRequest) : Json :=
  .obj [("monitor_id", .ofOption .ofUuid r.monitorId), ("status_id", .ofOption .ofUuid r.statusId),
    ("starts_at", .ofOption .ofInstant r.startsAt), ("root_cause", .ofOption .str r.rootCause),
    ("created_by_user_id", .ofOption .ofUuid r.createdBy), ("actor", .ofOption .ofUuid r.actor)]

def ofJson (v : Json) : Fit ChangeRequest := do
  let fs ← layout.fields v
  return {
    monitorId := ← fs.optional "monitor_id" Json.asUuid
    statusId := ← fs.optional "status_id" Json.asUuid
    startsAt := ← fs.optional "starts_at" Json.asInstant
    rootCause := ← fs.optional "root_cause" Json.asText
    createdBy := ← fs.optional "created_by_user_id" Json.asUuid
    actor := ← fs.optional "actor" Json.asUuid }

end ChangeRequest

namespace PointerUpdate

def layout : Layout where
  names := ["monitor_id", "status_id"]
  least := 2

def toJson (p : PointerUpdate) : Json :=
  .obj [("monitor_id", .ofUuid p.monitorId), ("status_id", .ofUuid p.statusId)]

def ofJson (v : Json) : Fit PointerUpdate := do
  let fs ← layout.fields v
  return {
    monitorId := ← fs.required "monitor_id" Json.asUuid
    statusId := ← fs.required "status_id" Json.asUuid }

end PointerUpdate

namespace Actor

def layout : Layout where
  names := ["name", "email"]
  least := 2

def toJson (a : Actor) : Json := .obj [("name", .str a.name), ("email", .str a.email)]

def ofJson (v : Json) : Fit Actor := do
  let fs ← layout.fields v
  return {
    name := ← fs.required "name" Json.asText
    email := ← fs.required "email" Json.asText }

end Actor

namespace StatusChange

def layout : Layout where
  names := ["interval", "closed_prior", "pointer"]
  least := 3

def toJson (c : StatusChange) : Json :=
  .obj [("interval", c.interval.toJson), ("closed_prior", .ofOption .ofUuid c.closedPrior),
    ("pointer", c.pointer.toJson)]

def ofJson (v : Json) : Fit StatusChange := do
  let fs ← layout.fields v
  return {
    interval := ← fs.required "interval" Interval.ofJson
    closedPrior := ← fs.optional "closed_prior" Json.asUuid
    pointer := ← fs.required "pointer" PointerUpdate.ofJson }

end StatusChange

namespace EndRepair

def layout : Layout where
  names := ["interval_id", "ends_at"]
  least := 2

def toJson (r : EndRepair) : Json :=
  .obj [("interval_id", .ofUuid r.intervalId), ("ends_at", .ofOption .ofInstant r.endsAt)]

def ofJson (v : Json) : Fit EndRepair := do
  let fs ← layout.fields v
  return {
    intervalId := ← fs.required "interval_id" Json.asUuid
    endsAt := ← fs.optional "ends_at" Json.asInstant }

end EndRepair

namespace DeletionOutcome

def layout : Layout where
  names := ["deleted", "repair", "pointer"]
  least := 3

def toJson (o : DeletionOutcome) : Json :=
  .obj [("deleted", o.deleted.toJson), ("repair", .ofOption EndRepair.toJson o.repair),
    ("pointer", .ofOption PointerUpdate.toJson o.pointer)]

def ofJson (v : Json) : Fit DeletionOutcome := do
  let fs ← layout.fields v
  return {
    deleted := ← fs.required "deleted" Interval.ofJson
    repair := ← fs.optional "repair" EndRepair.ofJson
    pointer := ← fs.optional "pointer" PointerUpdate.ofJson }

end DeletionOutcome

namespace PageQuery

def layout : Layout where
  names := ["limit", "offset"]
  least := 2

def asSigned : Json → Fit Int := Json.asInt (-signedBound) signedBound

def toJson (q : PageQuery) : Json :=
  .obj [("limit", .ofOption .int q.limit), ("offset", .ofOption .int q.offset)]

def ofJson (v : Json) : Fit PageQuery := do
  let fs ← layout.fields v
  return {
    limit := ← fs.optional "limit" asSigned
    offset := ← fs.optional "offset" asSigned }

end PageQuery

end StatusTimeline
