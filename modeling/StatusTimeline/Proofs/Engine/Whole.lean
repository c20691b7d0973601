import StatusTimeline.Proofs.Engine.Serve
import StatusTimeline.Proofs.Engine.Stages

/-!
This module contains what the two writing operations of an engine amount to when they are executed whole: one
appending or deleting call to the store, with a lock taken before and given back after it.
-/

namespace StatusTimeline

namespace Slots

/--
The locks after a key was locked and given back with nothing else at work.
-/
def cycled (s : Slots) : Slots := { lastSlot := s.lastSlot + 1, lastTicket := s.lastTicket + 1 }

variable {s : Slots}

theorem enter_of_idle (h : s.claims = []) (key : String) :
    s.enter key = (s.lastTicket + 1,
      { entries := [(key, s.lastSlot + 1)]
        claims := [{ ticket := s.lastTicket + 1, key, slot := s.lastSlot + 1, holds := true }]
        lastSlot := s.lastSlot + 1
        lastTicket := s.lastTicket + 1 }) := by
  have hs : s.sweep = { s with entries := [] } := by
    simp [sweep, isIdle, h]
  simp [enter, claim, hs, ensure, slotOf?, grant, isHeld, h, grantOldest]

theorem giveUp_enter_of_idle (h : s.claims = []) (key : String) :
    (s.enter key).2.granted (s.enter key).1 = true ∧
      (s.enter key).2.giveUp key (s.enter key).1 = s.cycled := by
  rw [enter_of_idle h]
  simp [granted, giveUp, withdraw, grant, isHeld, grantOldest, prune, isIdle, cycled]

end Slots

namespace Memory

def rootCause (m : Memory) (e : Engine) (r : ChangeRequest) : Option String :=
  r.rootCause <|> do
    let user ← r.initiatingUser
    if e.directory then (m.directory.find? user).map (·.rootCause) else none

def succeedWhole (m : Memory) (stamp : Stamp) (new : NewInterval) : Except Error StatusChange × Memory :=
  let closedPrior := (Row.latest? new.monitorId m.store.rows).map (·.id)
  match m.store.append stamp new closedPrior with
  | (.error err, store) => (.error err, { m with store })
  | (.ok interval, store) =>
    let pointer : PointerUpdate := { monitorId := new.monitorId, statusId := interval.statusId }
    (.ok { interval, closedPrior, pointer }, { m with store, board := m.board.set pointer })

/--
The pointer of a monitor as its most recently created interval gives it.
-/
def latestPointer (store : Store) (monitor : Uuid) : Option PointerUpdate :=
  (Row.latest? monitor store.rows).map fun latest => { monitorId := monitor, statusId := latest.statusId }

def putPointer (m : Memory) : Option PointerUpdate → Memory
  | some update => { m with board := m.board.set update }
  | none => m

def cutOutWhole (m : Memory) (target : Interval) : Except Error DeletionOutcome × Memory :=
  let plan := DeletionPlan.restitch target
    (Row.neighbors target.monitorId target.startsAt m.store.rows)
  match m.store.applyDeletion plan with
  | (.error err, store) => (.error err, { m with store })
  | (.ok _, store) =>
    let pointer := latestPointer store target.monitorId
    (.ok { deleted := target, repair := plan.repair, pointer }, { m with store }.putPointer pointer)

def deleteWhole (m : Memory) (id : Uuid) : Except Error DeletionOutcome × Memory :=
  match m.store.find? id with
  | none => (.error (.noInterval id), m)
  | some row =>
    if (Row.ofMonitor row.interval.monitorId m.store.rows).length ≤ 1 then
      (.error (.validation .onlyInterval), m)
    else m.cutOutWhole row.interval

variable {m : Memory} {stamp : Stamp} {e : Engine}

theorem rootCause_congr {m' : Memory} (h : m'.directory = m.directory) (r : ChangeRequest) :
    m'.rootCause e r = m.rootCause e r := by
  unfold rootCause
  rw [h]

def namedCause : Lookup → Option String
  | .found actor => some actor.rootCause
  | .unknown => none
  | .timedOut => none

theorem rootCause_of_search {r : ChangeRequest} {user : Uuid} (hr : r.rootCause = none)
    (hu : r.initiatingUser = some user) (hd : e.directory = true) :
    m.rootCause e r = namedCause (.ofSearch (m.directory.find? user)) := by
  unfold rootCause
  rw [hr, hu]
  cases h : m.directory.find? user <;> simp [h, hd, Lookup.ofSearch, namedCause]

theorem perform_rootCause (r : ChangeRequest) :
    m.perform stamp (e.rootCause r) = (.ok (m.rootCause e r), m) := by
  unfold Engine.rootCause
  cases hr : r.rootCause with
  | some given => simp [rootCause, hr, perform_pure]
  | none =>
    unfold Engine.annotate
    cases hu : r.initiatingUser with
    | none => simp [rootCause, hr, hu, perform_pure]
    | some user =>
      cases hd : e.directory with
      | false => simp [rootCause, hr, hu, hd, perform_pure]
      | true =>
        rw [rootCause_of_search hr hu hd]
        simp only [Bool.not_true, Bool.false_eq_true, if_false, perform_bind, perform_tryCatch,
          perform_resolve]
        cases m.directory.find? user <;> rfl

theorem perform_succeed (he : e.compound = .whole) (new : NewInterval) :
    m.perform stamp (e.succeed new) = m.succeedWhole stamp new := by
  unfold Engine.succeed succeedWhole
  simp only [perform_bind, perform_store, Store.answer, Engine.append, he,
    perform_setPointer, perform_pure]
  cases m.store.append stamp new ((Row.latest? new.monitorId m.store.rows).map (·.id)) with
  | mk outcome store => cases outcome <;> rfl

theorem perform_settle (monitor : Uuid) :
    m.perform stamp (Engine.settle monitor) =
      (.ok (latestPointer m.store monitor), m.putPointer (latestPointer m.store monitor)) := by
  unfold Engine.settle latestPointer
  simp only [perform_bind, perform_store, Store.answer]
  cases Row.latest? monitor m.store.rows <;> rfl

theorem perform_cutOut (he : e.compound = .whole) (target : Interval) :
    m.perform stamp (e.cutOut target) = m.cutOutWhole target := by
  unfold Engine.cutOut cutOutWhole
  simp only [perform_bind, perform_store, Store.answer, Engine.applyDeletion, he,
    perform_settle, perform_pure]
  cases m.store.applyDeletion (.restitch target (Row.neighbors target.monitorId target.startsAt m.store.rows)) with
  | mk outcome store => cases outcome <;> rfl

theorem perform_get (id : Uuid) :
    m.perform stamp (Engine.get id) =
      match m.store.find? id with
      | none => (.error (.noInterval id), m)
      | some row => (.ok row.interval, m) := by
  unfold Engine.get
  simp only [perform_bind, perform_store, Store.answer]
  cases m.store.find? id <;> rfl

theorem perform_deleteLocked (he : e.compound = .whole) (id : Uuid) :
    m.perform stamp (e.deleteLocked id) = m.deleteWhole id := by
  rw [Engine.deleteLocked_eq, perform_bind, perform_get]
  unfold deleteWhole
  cases m.store.find? id with
  | none => rfl
  | some row =>
    simp only [Engine.cutOutOne, perform_bind, perform_store, Store.answer]
    split
    . rfl
    . exact perform_cutOut he _

/--
Under a lock an operation does what it does without.
-/
theorem perform_locked (hidle : m.locks.claims = []) {monitor : Uuid} {body : Operation α}
    {result : Except Error α} {m' : Memory}
    (hbody : ∀ locks, { m with locks }.perform stamp body = (result, { m' with locks })) :
    m.perform stamp (Engine.locked monitor body) = (result, { m' with locks := m.locks.cycled }) := by
  -- the lock is granted at once, and giving it back leaves the slots idle
  obtain ⟨hg, hu⟩ := Slots.giveUp_enter_of_idle hidle (Engine.lockKey monitor)
  unfold Engine.locked
  rw [perform_bind, perform_call]
  simp only [answer, hg, if_true, perform_finish, hbody, giveUp, hu]

theorem succeedWhole_locks (new : NewInterval) (locks : Slots) :
    { m with locks }.succeedWhole stamp new =
      ((m.succeedWhole stamp new).1, { (m.succeedWhole stamp new).2 with locks }) := by
  unfold succeedWhole
  dsimp only
  cases m.store.append stamp new ((Row.latest? new.monitorId m.store.rows).map (·.id)) with
  | mk outcome store => cases outcome <;> rfl

theorem deleteWhole_locks (id : Uuid) (locks : Slots) :
    { m with locks }.deleteWhole id = ((m.deleteWhole id).1, { (m.deleteWhole id).2 with locks }) := by
  unfold deleteWhole
  cases m.store.find? id with
  | none => rfl
  | some row =>
    simp only
    split
    . rfl
    . unfold cutOutWhole
      simp only
      cases m.store.applyDeletion (.restitch row.interval
        (Row.neighbors row.interval.monitorId row.interval.startsAt m.store.rows)) with
      | mk outcome store =>
        cases outcome with
        | error err => rfl
        | ok _ => cases h : latestPointer store row.interval.monitorId <;> simp [putPointer, h]

theorem serve_record (he : e.compound = .whole) (hidle : m.locks.claims = []) (r : ChangeRequest) :
    serve e m stamp (.record r) =
      match r.monitorId, r.statusId with
      | none, _ => (.error (.validation .missingMonitor), m)
      | some _, none => (.error (.validation .missingStatus), m)
      | some monitor, some status =>
        ((m.succeedWhole stamp (Engine.opening monitor status r (m.rootCause e r))).1,
          { (m.succeedWhole stamp (Engine.opening monitor status r (m.rootCause e r))).2 with
            locks := m.locks.cycled }) := by
  show m.perform stamp (e.record r) = _
  unfold Engine.record
  cases r.monitorId with
  | none => rfl
  | some monitor =>
    cases r.statusId with
    | none => rfl
    | some status =>
      apply perform_locked hidle
      intro locks
      rw [Engine.recordLocked_eq, perform_bind, perform_rootCause]
      simp only [perform_succeed he]
      exact succeedWhole_locks ..

theorem serve_delete (he : e.compound = .whole) (hidle : m.locks.claims = []) (id : Uuid) :
    serve e m stamp (.delete id) =
      match m.store.find? id with
      | none => (.error (.noInterval id), m)
      | some _ => ((m.deleteWhole id).1, { (m.deleteWhole id).2 with locks := m.locks.cycled }) := by
  show m.perform stamp (e.delete id) = _
  unfold Engine.delete
  rw [perform_bind, perform_get]
  cases m.store.find? id with
  | none => rfl
  | some row =>
    apply perform_locked hidle
    intro locks
    rw [perform_deleteLocked he]
    exact deleteWhole_locks ..

theorem serve_record_ok (he : e.compound = .whole) (hidle : m.locks.claims = []) {r : ChangeRequest}
    {monitor status : Uuid} (hmonitor : r.monitorId = some monitor) (hstatus : r.statusId = some status)
    {interval : Interval} {store : Store}
    (happ : m.store.append stamp (Engine.opening monitor status r (m.rootCause e r))
      ((Row.latest? monitor m.store.rows).map (·.id)) = (.ok interval, store)) :
    serve e m stamp (.record r) =
      (.ok
        { interval
          closedPrior := (Row.latest? monitor m.store.rows).map (·.id)
          pointer := { monitorId := monitor, statusId := interval.statusId } },
        { m with
          store
          board := m.board.set { monitorId := monitor, statusId := interval.statusId }
          locks := m.locks.cycled }) := by
  rw [serve_record he hidle]
  simp only [hmonitor, hstatus, succeedWhole, Engine.opening] at happ ⊢
  simp only [happ]

theorem serve_delete_none (he : e.compound = .whole) (hidle : m.locks.claims = []) {id : Uuid}
    (hf : m.store.find? id = none) : serve e m stamp (.delete id) = (.error (.noInterval id), m) := by
  rw [serve_delete he hidle, hf]

theorem serve_delete_only (he : e.compound = .whole) (hidle : m.locks.claims = []) {id : Uuid} {row : Row}
    (hf : m.store.find? id = some row)
    (hn : (Row.ofMonitor row.interval.monitorId m.store.rows).length ≤ 1) :
    serve e m stamp (.delete id) =
      (.error (.validation .onlyInterval), { m with locks := m.locks.cycled }) := by
  rw [serve_delete he hidle]
  simp only [hf, deleteWhole, hn, if_true]

theorem serve_delete_ok (he : e.compound = .whole) (hidle : m.locks.claims = []) {id : Uuid} {row : Row}
    (hf : m.store.find? id = some row)
    (hn : ¬ (Row.ofMonitor row.interval.monitorId m.store.rows).length ≤ 1) {store : Store}
    (happ : m.store.applyDeletion (.restitch row.interval
      (Row.neighbors row.interval.monitorId row.interval.startsAt m.store.rows)) = (.ok (), store)) :
    serve e m stamp (.delete id) =
      (.ok
        { deleted := row.interval
          repair := (DeletionPlan.restitch row.interval
            (Row.neighbors row.interval.monitorId row.interval.startsAt m.store.rows)).repair
          pointer := latestPointer store row.interval.monitorId },
        { { m with store }.putPointer (latestPointer store row.interval.monitorId) with
          locks := m.locks.cycled }) := by
  rw [serve_delete he hidle]
  simp only [hf, deleteWhole, hn, if_false, cutOutWhole, happ]

theorem serve_purge (cutoff : Instant) :
    serve e m stamp (.purge cutoff) =
      (.ok (m.store.purge cutoff).1, { m with store := (m.store.purge cutoff).2 }) := rfl

theorem serve_get (id : Uuid) :
    serve e m stamp (.get id) =
      match m.store.find? id with
      | none => (.error (.noInterval id), m)
      | some row => (.ok row.interval, m) :=
  perform_get id

theorem serve_get_snd (id : Uuid) : (serve e m stamp (.get id)).2 = m := by
  rw [serve_get]
  split <;> rfl

end Memory

end StatusTimeline
