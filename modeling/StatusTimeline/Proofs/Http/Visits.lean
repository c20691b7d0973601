import StatusTimeline.Proofs.Engine.Completion
import StatusTimeline.Proofs.Http.Atomic
import StatusTimeline.Proofs.Store.Pace
import StatusTimeline.Proofs.Wire.Layout

/-!
This module contains requests over HTTP that come one after another, with others at work between them who use the engine,
the store and the locks themselves. Every request is answered, and what it does depends on its body only by the fields
that belong there.
-/

namespace StatusTimeline

namespace Http

/--
What may be done to a memory between two requests: another request, a request to the engine, a call to a collaborator, or
a claim that waits for its lock.
-/
inductive Deed where
  | visit (r : Http.Request)
  | serve (r : StatusTimeline.Request)
  | call (c : Call)
  | queue (key : String)

structure Event where
  stamp : Stamp
  deed : Deed

/--
Answer a request; none when the store has no creation time left to give.
-/
def visit? (e : Engine) (m : Memory) (stamp : Stamp) (r : Http.Request) : Option (Response × Memory) :=
  (handle e r).run? (Memory.answer? stamp) m

def undergo? (e : Engine) (m : Memory) (ev : Event) : Option Memory :=
  match ev.deed with
  | .visit r => (visit? e m ev.stamp r).map (·.2)
  | .serve r => ((r.operation e).run.run? (Memory.answer? ev.stamp) m).map (·.2)
  | .call c => (m.answer? ev.stamp c).map (·.2)
  | .queue key => some { m with locks := (m.locks.enter key).2 }

def reach? (e : Engine) (m : Memory) (evs : List Event) : Option Memory := evs.foldlM (undergo? e) m

/--
Whether two bodies are objects that differ only in what they give as a monitor and as a caller.
-/
def Alike (body body' : ByteArray) : Prop :=
  body.size ≤ longestBody ∧ body'.size ≤ longestBody ∧
    ∃ members members' rest rest', Json.read body.data.toList = .whole (.obj members) rest ∧
      Json.read body'.data.toList = .whole (.obj members') rest' ∧
      members.filter (·.1 ∉ ["monitor_id", "actor"]) = members'.filter (·.1 ∉ ["monitor_id", "actor"])

variable {e : Engine} {r : Http.Request} {m m' : Memory} {stamp : Stamp} {limit : Instant} {n k : Nat}

theorem ofJson_filter (members : List (String × Json)) :
    StatusForm.ofJson (.obj (members.filter (·.1 ∉ ["monitor_id", "actor"]))) = StatusForm.ofJson (.obj members) := by
  have hpick : StatusForm.layout.fieldsChecked StatusForm.check
      (.obj (members.filter (·.1 ∉ ["monitor_id", "actor"]))) =
        StatusForm.layout.fieldsChecked StatusForm.check (.obj members) := by
    apply Layout.pick_filter
    intro f hf
    -- the form has no field of either name
    have hnames : ∀ name ∈ StatusForm.layout.names, name ∉ ["monitor_id", "actor"] := by decide
    simpa using hnames f.1 hf
  unfold StatusForm.ofJson
  rw [hpick]

theorem handle_of_alike {body : ByteArray} (h : Alike r.body body) : handle e { r with body } = handle e r := by
  obtain ⟨hsize, hsize', members, members', rest, rest', hread, hread', hsame⟩ := h
  have hform : StatusForm.ofBytes body.data.toList = StatusForm.ofBytes r.body.data.toList := by
    unfold StatusForm.ofBytes
    rw [hread, hread']
    show StatusForm.ofJson _ = StatusForm.ofJson _
    rw [← ofJson_filter members, ← ofJson_filter members', hsame]
  have hrecord : ∀ monitor, recordStatus e monitor { r with body } = recordStatus e monitor r := by
    intro monitor
    unfold recordStatus
    simp only [hform, Nat.not_lt.2 hsize, Nat.not_lt.2 hsize', if_false]
    rfl
  unfold handle answer
  simp only [hrecord]

theorem insertsOnce_respond {α : Type} (status : Nat) (toJson : α → Json) {x : Operation α} (h : x.InsertsOnce) :
    (respond status toJson x).InsertsOnce := by
  apply Program.InsertsOnce.bind h
  intro outcome
  cases outcome <;> trivial

theorem Course.insertsOnce {p : Program Response} (h : Course e r p) : p.InsertsOnce := by
  cases h with
  | told response => trivial
  | looked q toJson => exact insertsOnce_respond 200 toJson (q.insertsOnce_operation e)
  | recorded => exact insertsOnce_respond 201 _ (e.insertsOnce_record _)
  | deleted => exact insertsOnce_respond 200 _ (e.insertsOnce_delete _)

theorem insertsOnce_handle (e : Engine) (r : Http.Request) : (handle e r).InsertsOnce := by
  unfold handle
  split
  . have hget := (answer_course_get e r).insertsOnce
    generalize answer e "GET" r = p at hget ⊢
    exact hget.bind fun _ => trivial
  . exact (answer_course e r).insertsOnce

/--
What holds between the events: nobody waits for a lock that is free, and creation times are ahead of the clock by one
microsecond for each event at most.
-/
structure Ready (limit : Instant) (n : Nat) (m : Memory) : Prop where
  locks : m.locks.Settled
  pace : m.store.Paced limit n

theorem settled_run {α : Type} (p : Program α) (h : m.locks.Settled) :
    (p.run (fun m c => m.answer stamp c) m).2.locks.Settled := by
  induction p generalizing m with
  | done a => exact h
  | call c next ih => exact ih _ (Memory.settled_answer h c)

/--
Programs that insert once are completed, and there is a microsecond less to the end of the calendar after them.
-/
theorem Ready.run? (h : Ready limit n m) (ht : limit.OnTime k stamp.now) (hn : n < k) {α : Type} {p : Program α}
    (hp : p.InsertsOnce) :
    ∃ x, p.run? (Memory.answer? stamp) m = some x ∧ x = p.run (fun m c => m.answer stamp c) m ∧
      Ready limit (n + 1) x.2 := by
  obtain ⟨x, hx, hlast⟩ := Memory.run?_of_insertsOnce hp (h.pace.hasTime ht hn)
  have hrun := Memory.run_of_run? hx
  refine ⟨x, hx, hrun.symm, ?_, h.pace.next ht hlast⟩
  rw [← hrun]
  exact settled_run p h.locks

theorem Ready.undergo? {ev : Event} (h : Ready limit n m) (ht : limit.OnTime k ev.stamp.now) (hn : n < k) :
    ∃ m', undergo? e m ev = some m' ∧ Ready limit (n + 1) m' := by
  unfold Http.undergo?
  cases ev.deed with
  | visit r =>
    obtain ⟨x, hx, _, hready⟩ := h.run? ht hn (insertsOnce_handle e r)
    exact ⟨x.2, by simp only [visit?, hx, Option.map_some], hready⟩
  | serve r =>
    obtain ⟨x, hx, _, hready⟩ := h.run? ht hn (r.insertsOnce_operation e)
    exact ⟨x.2, by simp only [hx, Option.map_some], hready⟩
  | call c =>
    refine ⟨(m.answer ev.stamp c).2, ?_, Memory.settled_answer h.locks c,
      h.pace.next ht (Memory.lastCreatedAt_answer c)⟩
    simp only [Memory.answer?_of_not_exhausts (Call.exhausts_of_hasTime (h.pace.hasTime ht hn)), Option.map_some]
  | queue key =>
    exact ⟨_, rfl, h.locks.enter key, h.pace.next ht (.inl rfl)⟩

theorem Ready.reach? {past : List Event} (h : Ready limit n m) (ht : ∀ ev ∈ past, limit.OnTime k ev.stamp.now)
    (hn : n + past.length ≤ k) : ∃ m', reach? e m past = some m' ∧ Ready limit (n + past.length) m' := by
  induction past generalizing m n with
  | nil => exact ⟨m, rfl, h⟩
  | cons ev past ih =>
    rw [List.length_cons] at hn
    obtain ⟨m₁, hm₁, hready⟩ := h.undergo? (e := e) (ht ev List.mem_cons_self) (by omega)
    obtain ⟨m₂, hm₂, hready₂⟩ := ih hready (fun ev hev => ht ev (List.mem_cons_of_mem _ hev)) (by omega)
    refine ⟨m₂, ?_, ?_⟩
    . rw [Http.reach?, List.foldlM_cons, hm₁]
      exact hm₂
    . rw [List.length_cons, Nat.add_comm past.length, ← Nat.add_assoc]
      exact hready₂

/--
Whatever was done before, and as long as the clock is not at the end of the calendar, a request is answered. When it is
refused, intervals, pointers and locks stay as they are; when a status is recorded or an interval deleted, that is what the
engine does for the identifier in the path and the caller in the header, whatever monitor and caller the body gives.
-/
theorem visits_atomic (e : Engine) (directory : Directory) {past : List Event} {stamp : Stamp} (r : Http.Request)
    {limit : Instant} (h : ∀ s ∈ stamp :: past.map (·.stamp), limit.OnTime (past.length + 1) s.now) :
    ∃ m response m', reach? e { directory } past = some m ∧ visit? e m stamp r = some (response, m') ∧
      Atomic e m stamp r response m' ∧
      ∀ body, Alike r.body body → visit? e m stamp { r with body } = some (response, m') := by
  have hstart : Ready limit 0 { directory } := ⟨Slots.Settled.empty, Store.paced_empty limit⟩
  have hpast : ∀ ev ∈ past, limit.OnTime (past.length + 1) ev.stamp.now := fun ev hev =>
    h _ (List.mem_cons_of_mem _ (List.mem_map_of_mem hev))
  obtain ⟨m, hm, hready⟩ := hstart.reach? (e := e) hpast (by omega)
  obtain ⟨⟨response, m'⟩, hvisit, hrun, _⟩ :=
    hready.run? (h stamp List.mem_cons_self) (by omega) (insertsOnce_handle e r)
  refine ⟨m, response, m', hm, hvisit, ?_, ?_⟩
  . have hatomic : Atomic e m stamp r _ _ := atomic_handle e r hready.locks
    rw [← hrun] at hatomic
    exact hatomic
  . intro body halike
    unfold visit?
    rw [handle_of_alike halike]
    exact hvisit

/--
A status that the user 5 records for the monitor 7. The body names another monitor and another user.
-/
def posting : Http.Request where
  method := "POST"
  target := "/v1/monitors/" ++ (Uuid.ofSerial 7).text ++ "/statuses"
  headers := [("Content-Type", "application/json".toUTF8.toList),
    ("X-StatusLine-Actor", (Uuid.ofSerial 5).text.toUTF8.toList)]
  body := ("\x7b\"monitor_id\":\"" ++ (Uuid.ofSerial 8).text ++ "\",\"status_id\":\"" ++ (Uuid.ofSerial 21).text ++
    "\",\"actor\":\"" ++ (Uuid.ofSerial 6).text ++ "\"\x7d").toUTF8

/--
The deletion of the interval 3.
-/
def deleting : Http.Request where
  method := "DELETE"
  target := "/v1/intervals/" ++ (Uuid.ofSerial 3).text

/--
Two statuses are recorded for the monitor, and in between the lock of another one is taken and kept.
-/
def busy : List Event :=
  [⟨⟨.ofSerial 1, .ofParts 1714521600 0⟩, .serve (.record
      { monitorId := some (.ofSerial 7), statusId := some (.ofSerial 20), rootCause := some "setup" })⟩,
    ⟨⟨.ofSerial 2, .ofParts 1714521620 0⟩, .call (.lock (Uuid.ofSerial 8).text)⟩,
    ⟨⟨.ofSerial 3, .ofParts 1714521640 0⟩, .serve (.record
      { monitorId := some (.ofSerial 7), statusId := some (.ofSerial 21), rootCause := some "probe" })⟩]

/--
A third status is recorded for the user that the header names. Had the second interval been deleted instead, the first one
would have been left.
-/
theorem visits_atomic_busy :
    let e : Engine := { directory := true }
    let directory : Directory :=
      { entries := [(.ofSerial 5, ⟨"Ada", "ada@example.org"⟩), (.ofSerial 6, ⟨"Eve", "eve@example.org"⟩)] }
    let stamp : Stamp := ⟨.ofSerial 4, .ofParts 1714521660 0⟩
    (∀ s ∈ stamp :: busy.map (·.stamp), (Instant.ofParts 1714521660 0).OnTime 4 s.now) ∧
    (∃ m response m', reach? e { directory } busy = some m ∧ visit? e m stamp posting = some (response, m') ∧
      Atomic e m stamp posting response m' ∧ response.status = 201 ∧ m'.store.intervals.map (·.rootCause) =
        [some "setup", some "probe", some "Monitor status created by Ada (ada@example.org)"]) ∧
    ∃ m response m', reach? e { directory } busy = some m ∧ visit? e m stamp deleting = some (response, m') ∧
      Atomic e m stamp deleting response m' ∧ response.status = 200 ∧ m'.store.ids = [.ofSerial 1] := by
  intro e directory stamp
  have htime : ∀ s ∈ stamp :: busy.map (·.stamp), (Instant.ofParts 1714521660 0).OnTime 4 s.now := by
    intro s hs
    refine ⟨by decide, by decide, ?_, ?_⟩ <;> revert s hs <;> decide
  obtain ⟨m, response, m', hm, hvisit, hatomic, _⟩ := visits_atomic e directory posting htime
  obtain ⟨n, response', n', hn, hvisit', hatomic', _⟩ := visits_atomic e directory deleting htime
  have hposted : ((reach? e { directory } busy).bind (visit? e · stamp posting)).map (fun x =>
      (x.1.status, x.2.store.intervals.map (·.rootCause))) = some (201, [some "setup", some "probe",
        some "Monitor status created by Ada (ada@example.org)"]) := by
    decide +kernel
  have hdeleted : ((reach? e { directory } busy).bind (visit? e · stamp deleting)).map (fun x =>
      (x.1.status, x.2.store.ids)) = some (200, [.ofSerial 1]) := by
    decide +kernel
  rw [hm, Option.bind_some, hvisit, Option.map_some, Option.some.injEq, Prod.mk.injEq] at hposted
  rw [hn, Option.bind_some, hvisit', Option.map_some, Option.some.injEq, Prod.mk.injEq] at hdeleted
  exact ⟨htime, ⟨m, response, m', hm, hvisit, hatomic, hposted⟩, n, response', n', hn, hvisit', hatomic', hdeleted⟩

end Http

end StatusTimeline
