import StatusTimeline.Engine
import StatusTimeline.Http.Form
import StatusTimeline.Http.Message
import StatusTimeline.Http.Route
import StatusTimeline.Http.Target
import StatusTimeline.Wire.Audit
import StatusTimeline.Wire.Values

/-!
This module contains the answers of the service to requests, as programs over the engine's collaborators. A
request is checked in a fixed order: path, content type, size and content of the body, caller.
-/

namespace StatusTimeline.Http

def statusOf : Error → Nat
  | .validation _ => 400
  | .notFound _ => 404
  | .lockTimeout _ _ => 503
  | _ => 500

/--
The greatest number of bytes that a body may have.
-/
def longestBody : Nat := 2097152

def respond (status : Nat) (toJson : α → Json) (operation : Operation α) : Program Response :=
  operation.run.bind fun
    | .ok a => .done { status, body := some (toJson a) }
    | .error e => .done (.refused (statusOf e) e.message)

def withId (text : String) (next : Uuid → Program Response) : Program Response :=
  match (percentDecodeText? text).bind Uuid.ofText? with
  | some id => next id
  | none => .done (.plain 400)

def recordStatus (e : Engine) (monitor : Uuid) (r : Request) : Program Response :=
  if !r.saysJson then .done (.plain 415)
  else if longestBody < r.body.size then .done (.plain 413)
  else
    match StatusForm.ofBytes r.body.data.toList with
    | .error .malformed => .done (.plain 400)
    | .error .shape => .done (.plain 422)
    | .ok form =>
      match r.actor with
      | .error response => .done response
      | .ok actor => respond 201 StatusChange.toJson (e.record (form.toRequest monitor actor))

def listTimeline (monitor : Uuid) (query : Option String) : Program Response :=
  match pageQuery? (query.getD "") with
  | none => .done (.plain 400)
  | some window =>
    respond 200 (fun intervals => .arr ((window.page intervals).map Interval.toJson))
      (Engine.timeline monitor)

def answer (e : Engine) (method : String) (r : Request) : Program Response :=
  let (path, query) := pathAndQuery r.target
  match Route.ofPath? path, method with
  | none, _ => .done (.plain 404)
  | some .health, "GET" => .done { status := 200, body := some (.obj [("status", .str "ok")]) }
  | some (.statuses monitor), "POST" => withId monitor fun monitor => recordStatus e monitor r
  | some (.timeline monitor), "GET" => withId monitor fun monitor => listTimeline monitor query
  | some (.audit monitor), "GET" =>
    withId monitor fun monitor => respond 200 AuditReport.toJson (Engine.audit monitor)
  | some (.interval id), "GET" =>
    withId id fun id => respond 200 Interval.toJson (Engine.get id)
  | some (.interval id), "DELETE" =>
    withId id fun id => respond 200 DeletionOutcome.toJson (e.delete id)
  | some _, _ => .done (.plain 405)

/--
Answer a request. `HEAD` is answered as `GET`, without a body.
-/
def handle (e : Engine) (r : Request) : Program Response :=
  if r.method = "HEAD" then
    (answer e "GET" r).bind fun response => .done { response with body := none }
  else answer e r.method r

end StatusTimeline.Http
