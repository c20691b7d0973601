import StatusTimeline.Http.Router
import StatusTimeline.Proofs.Engine.Refusal

/-!
This module contains what a request over HTTP does to a memory. It is refused and leaves everything as it was, or it does
what the engine does when it is asked directly.
-/

namespace StatusTimeline

namespace Http

/--
The caller that a request names in its first header for that, if it has one. The value is an identifier, with blanks at
its ends.
-/
inductive Names (r : Http.Request) : Option Uuid → Prop where
  | nobody (h : r.header? "x-statusline-actor" = none) : Names r none
  | user {value : List UInt8} {text : String} {id : Uuid} (h : r.header? "x-statusline-actor" = some value)
      (htext : Request.headerText? value = some text) (hid : Uuid.ofText? (trimmed text) = some id) : Names r (some id)

/--
What a request over HTTP comes to: its response and the memory after it.
-/
structure Atomic (e : Engine) (m : Memory) (stamp : Stamp) (r : Http.Request) (response : Response) (m' : Memory) :
    Prop where
  refused : ¬ (200 ≤ response.status ∧ response.status < 300) → m.Spared m'
  looked : r.method ≠ "POST" → r.method ≠ "DELETE" → m' = m
  answered : response.status ≠ 500
  recorded : r.method = "POST" → response.status = 201 →
    ∃ path monitor form caller change, Route.ofPath? (pathAndQuery r.target).1 = some (.statuses path) ∧
      (percentDecodeText? path).bind Uuid.ofText? = some monitor ∧ StatusForm.ofBytes r.body.data.toList = .ok form ∧
      Names r caller ∧
      Memory.serve e m stamp (.record {
        monitorId := some monitor
        statusId := form.statusId
        startsAt := form.startsAt
        rootCause := form.rootCause
        createdBy := form.createdBy
        actor := caller }) = (.ok change, m') ∧
      response.body = some change.toJson
  deleted : r.method = "DELETE" → response.status = 200 →
    ∃ path id outcome, Route.ofPath? (pathAndQuery r.target).1 = some (.interval path) ∧
      (percentDecodeText? path).bind Uuid.ofText? = some id ∧
      Memory.serve e m stamp (.delete id) = (.ok outcome, m') ∧ response.body = some outcome.toJson

/--
The programs by which requests are answered: a response that is settled, a look at the intervals, or one of the two
writing operations.
-/
inductive Course (e : Engine) (r : Http.Request) : Program Response → Prop where
  | told (response : Response) (hanswered : response.status ≠ 500) (hpost : r.method = "POST" → response.status ≠ 201)
      (hdelete : r.method = "DELETE" → response.status ≠ 200) : Course e r (.done response)
  | looked (q : StatusTimeline.Request) (toJson : q.Answer → Json) (hget : r.method = "GET")
      (hreads : ∀ m stamp, (Memory.serve e m stamp q).2 = m) : Course e r (respond 200 toJson (q.operation e))
  | recorded {path : String} {monitor : Uuid} {form : StatusForm} {caller : Option Uuid} (hpost : r.method = "POST")
      (hroute : Route.ofPath? (pathAndQuery r.target).1 = some (.statuses path))
      (hpath : (percentDecodeText? path).bind Uuid.ofText? = some monitor)
      (hform : StatusForm.ofBytes r.body.data.toList = .ok form) (hcaller : r.actor = .ok caller) :
      Course e r (respond 201 StatusChange.toJson (e.record (form.toRequest monitor caller)))
  | deleted {path : String} {id : Uuid} (hdelete : r.method = "DELETE")
      (hroute : Route.ofPath? (pathAndQuery r.target).1 = some (.interval path))
      (hpath : (percentDecodeText? path).bind Uuid.ofText? = some id) :
      Course e r (respond 200 DeletionOutcome.toJson (e.delete id))

section Course

variable {e : Engine} {r : Http.Request}

/--
Responses that tell of an error of the caller do not depend on the engine.
-/
theorem Course.plain {status : Nat} (h : status ≠ 500 ∧ status ≠ 201 ∧ status ≠ 200) :
    Course e r (.done (.plain status)) :=
  .told _ h.1 (fun _ => h.2.1) fun _ => h.2.2

theorem actor_error {response : Response} (h : r.actor = .error response) : response.status = 400 := by
  unfold Request.actor at h
  split at h
  . cases h
  . split at h
    . cases h
    . cases h
      rfl

theorem names_of_actor {caller : Option Uuid} (h : r.actor = .ok caller) : Names r caller := by
  unfold Request.actor at h
  cases hvalue : r.header? actorHeader with
  | none =>
    rw [hvalue] at h
    cases h
    exact .nobody hvalue
  | some value =>
    simp only [hvalue] at h
    cases htext : Request.headerText? value with
    | none => simp [htext] at h
    | some text =>
      cases hid : Uuid.ofText? (trimmed text) with
      | none => simp [htext, hid] at h
      | some id =>
        simp only [htext, Option.bind_some, hid] at h
        cases h
        exact .user hvalue htext hid

theorem course_withId {path : String} {next : Uuid → Program Response}
    (h : ∀ id, (percentDecodeText? path).bind Uuid.ofText? = some id → Course e r (next id)) :
    Course e r (withId path next) := by
  unfold withId
  split
  . next id hid => exact h id hid
  . exact .plain (by decide)

theorem course_recordStatus {path : String} {monitor : Uuid} (hpost : r.method = "POST")
    (hroute : Route.ofPath? (pathAndQuery r.target).1 = some (.statuses path))
    (hpath : (percentDecodeText? path).bind Uuid.ofText? = some monitor) :
    Course e r (recordStatus e monitor r) := by
  unfold recordStatus
  split
  . exact .plain (by decide)
  . split
    . exact .plain (by decide)
    . split
      . exact .plain (by decide)
      . exact .plain (by decide)
      . next form hform =>
        split
        . next response hactor =>
          have hstatus := actor_error hactor
          refine .told response ?_ (fun _ => ?_) (fun _ => ?_) <;> rw [hstatus] <;> decide
        . next caller hcaller => exact .recorded hpost hroute hpath hform hcaller

theorem course_listTimeline {monitor : Uuid} {query : Option String} (hget : r.method = "GET") :
    Course e r (listTimeline monitor query) := by
  unfold listTimeline
  split
  . exact .plain (by decide)
  . exact .looked (.timeline monitor) _ hget fun _ _ => rfl

theorem answer_course (e : Engine) (r : Http.Request) : Course e r (answer e r.method r) := by
  unfold answer
  dsimp only
  split
  . exact .plain (by decide)
  . next hmethod =>
    refine .told _ (by decide) ?_ ?_ <;> rw [hmethod] <;> decide
  . next hroute hmethod => exact course_withId fun _ hpath => course_recordStatus hmethod hroute hpath
  . next hmethod => exact course_withId fun _ _ => course_listTimeline hmethod
  . next monitor _ hmethod =>
    exact course_withId fun monitor _ => .looked (.audit monitor) AuditReport.toJson hmethod fun _ _ => rfl
  . next id _ hmethod =>
    exact course_withId fun id _ => .looked (.get id) Interval.toJson hmethod fun _ _ => Memory.serve_get_snd id
  . next hroute hmethod => exact course_withId fun id hpath => .deleted hmethod hroute hpath
  . exact .plain (by decide)

/--
An answer depends on the method that it is asked for, not on that of the request.
-/
theorem answer_course_get (e : Engine) (r : Http.Request) :
    Course e { r with method := "GET" } (answer e "GET" r) := answer_course e { r with method := "GET" }

theorem statusOf_of_isRefusal {err : Error} (h : err.isRefusal = true) :
    statusOf err ≠ 500 ∧ statusOf err ≠ 201 ∧ statusOf err ≠ 200 := by
  cases err with
  | validation why => exact ⟨Nat.ne_of_beq_eq_false rfl, Nat.ne_of_beq_eq_false rfl, Nat.ne_of_beq_eq_false rfl⟩
  | notFound what => exact ⟨Nat.ne_of_beq_eq_false rfl, Nat.ne_of_beq_eq_false rfl, Nat.ne_of_beq_eq_false rfl⟩
  | lockTimeout key waited =>
    exact ⟨Nat.ne_of_beq_eq_false rfl, Nat.ne_of_beq_eq_false rfl, Nat.ne_of_beq_eq_false rfl⟩
  | _ => cases h

variable {m : Memory} {stamp : Stamp} {p : Program Response}

/--
What is responded to a request to the engine, which is served or refused.
-/
theorem run_respond (e : Engine) (stamp : Stamp) (hlocks : m.locks.Settled) (q : StatusTimeline.Request) (status : Nat)
    (toJson : q.Answer → Json) :
    (∃ a m', Memory.serve e m stamp q = (.ok a, m') ∧
      (respond status toJson (q.operation e)).run (fun m c => m.answer stamp c) m =
        ({ status, body := some (toJson a) }, m')) ∨
    ∃ err m', m.Spared m' ∧ err.isRefusal = true ∧ Memory.serve e m stamp q = (.error err, m') ∧
      (respond status toJson (q.operation e)).run (fun m c => m.answer stamp c) m =
        (.refused (statusOf err) err.message, m') := by
  have hrefused : ∀ err, (Memory.serve e m stamp q).1 = .error err →
      m.Spared (Memory.serve e m stamp q).2 ∧ err.isRefusal = true := fun _ => Memory.serve_refused hlocks q
  have hserve : (q.operation e).run.run (fun m c => m.answer stamp c) m = Memory.serve e m stamp q := rfl
  unfold respond
  rw [Program.run_bind, hserve]
  cases hq : Memory.serve e m stamp q with
  | mk outcome m' =>
    cases outcome with
    | ok a => exact .inl ⟨a, m', rfl, rfl⟩
    | error err =>
      rw [hq] at hrefused
      obtain ⟨hspared, hrefusal⟩ := hrefused err rfl
      exact .inr ⟨err, m', hspared, hrefusal, rfl, rfl⟩

theorem atomic_refused {m' : Memory} {err : Error} (hspared : m.Spared m') (hrefusal : err.isRefusal = true)
    (hlooked : r.method ≠ "POST" → r.method ≠ "DELETE" → m' = m) :
    Atomic e m stamp r (.refused (statusOf err) err.message) m' := by
  obtain ⟨hanswered, hcreated, hok⟩ := statusOf_of_isRefusal hrefusal
  exact ⟨fun _ => hspared, hlooked, hanswered, fun _ hs => absurd hs hcreated, fun _ hs => absurd hs hok⟩

theorem Course.atomic (h : Course e r p) (hlocks : m.locks.Settled) :
    Atomic e m stamp r (p.run (fun m c => m.answer stamp c) m).1 (p.run (fun m c => m.answer stamp c) m).2 := by
  cases h with
  | told response hanswered hpost hdelete =>
    exact ⟨fun _ => .refl m, fun _ _ => rfl, hanswered, fun hm hs => absurd hs (hpost hm),
      fun hm hs => absurd hs (hdelete hm)⟩
  | looked q toJson hget hreads =>
    have hsame := hreads m stamp
    have hnot : r.method ≠ "POST" ∧ r.method ≠ "DELETE" := by
      rw [hget]
      decide
    rcases run_respond e stamp hlocks q 200 toJson with
      ⟨a, m', hserve, hrun⟩ | ⟨err, m', hspared, hrefusal, hserve, hrun⟩
    . rw [hserve] at hsame
      rw [hrun]
      exact ⟨fun hs => absurd (show 200 ≤ 200 ∧ 200 < 300 by decide) hs, fun _ _ => hsame, show 200 ≠ 500 by decide,
        fun hm => absurd hm hnot.1, fun hm => absurd hm hnot.2⟩
    . rw [hserve] at hsame
      rw [hrun]
      exact atomic_refused hspared hrefusal fun _ _ => hsame
  | @recorded path monitor form caller hpost hroute hpath hform hcaller =>
    have hnot : r.method ≠ "DELETE" := by
      rw [hpost]
      decide
    rcases run_respond e stamp hlocks (.record (form.toRequest monitor caller)) 201
      StatusChange.toJson with ⟨change, m', hserve, hrun⟩ | ⟨err, m', hspared, hrefusal, _, hrun⟩
    . replace hrun : (respond 201 StatusChange.toJson (e.record (form.toRequest monitor caller))).run _ m = _ := hrun
      rw [hrun]
      exact ⟨fun hs => absurd (show 200 ≤ 201 ∧ 201 < 300 by decide) hs, fun hm => absurd hpost hm,
        show 201 ≠ 500 by decide,
        fun _ _ => ⟨path, monitor, form, caller, change, hroute, hpath, hform, names_of_actor hcaller, hserve, rfl⟩,
        fun hm => absurd hm hnot⟩
    . replace hrun : (respond 201 StatusChange.toJson (e.record (form.toRequest monitor caller))).run _ m = _ := hrun
      rw [hrun]
      exact atomic_refused hspared hrefusal fun hm => absurd hpost hm
  | @deleted path id hdelete hroute hpath =>
    have hnot : r.method ≠ "POST" := by
      rw [hdelete]
      decide
    rcases run_respond e stamp hlocks (.delete id) 200
      DeletionOutcome.toJson with ⟨outcome, m', hserve, hrun⟩ | ⟨err, m', hspared, hrefusal, _, hrun⟩
    . replace hrun : (respond 200 DeletionOutcome.toJson (e.delete id)).run _ m = _ := hrun
      rw [hrun]
      exact ⟨fun hs => absurd (show 200 ≤ 200 ∧ 200 < 300 by decide) hs, fun _ hm => absurd hdelete hm,
        show 200 ≠ 500 by decide, fun hm => absurd hm hnot, fun _ _ => ⟨path, id, outcome, hroute, hpath, hserve, rfl⟩⟩
    . replace hrun : (respond 200 DeletionOutcome.toJson (e.delete id)).run _ m = _ := hrun
      rw [hrun]
      exact atomic_refused hspared hrefusal fun _ hm => absurd hdelete hm

/--
`HEAD` comes to what `GET` comes to, without the body.
-/
theorem atomic_handle (e : Engine) (r : Http.Request) (hlocks : m.locks.Settled) :
    Atomic e m stamp r ((handle e r).run (fun m c => m.answer stamp c) m).1
      ((handle e r).run (fun m c => m.answer stamp c) m).2 := by
  unfold handle
  split
  . next hhead =>
    have hget : Atomic e m stamp { r with method := "GET" } _ _ := (answer_course_get e r).atomic hlocks
    rw [Program.run_bind]
    generalize (answer e "GET" r).run (fun m c => m.answer stamp c) m = ended at hget ⊢
    exact ⟨hget.refused, fun _ _ => hget.looked (show "GET" ≠ "POST" by decide) (show "GET" ≠ "DELETE" by decide),
      hget.answered,
      fun hm => absurd (hhead.symm.trans hm) (by decide), fun hm => absurd (hhead.symm.trans hm) (by decide)⟩
  . exact (answer_course e r).atomic hlocks

end Course

end Http

end StatusTimeline
