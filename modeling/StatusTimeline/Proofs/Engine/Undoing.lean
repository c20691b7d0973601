import StatusTimeline.Proofs.Engine.Completion
import StatusTimeline.Proofs.Engine.Deletion
import StatusTimeline.Proofs.Engine.Refusal
import StatusTimeline.Proofs.Store.Undoing

/-!
This module contains the memories that calls and whole requests lead to, and the deletion of what was recorded last in
them. When the interval before it is open, the last of the timeline and the one that the pointer follows, then deleting
the new interval brings back all intervals and all pointers.
-/

namespace StatusTimeline

namespace Memory

/--
What a memory becomes while its users make calls, each drawing an identifier that is new where it inserts, and queue for
locks.
-/
inductive Reached : Memory → Prop where
  | start (directory : Directory) : Reached { directory }
  | called {m : Memory} (h : Reached m) (stamp : Stamp) (c : Call)
      (hfresh : c.inserts = true → m.store.contains stamp.id = false) : Reached (m.answer stamp c).2
  | queued {m : Memory} (h : Reached m) (key : String) : Reached { m with locks := (m.locks.enter key).2 }

/--
The interval of a monitor that was created last is open and starts last, and the pointer follows it.
-/
structure Current (m : Memory) (monitor : Uuid) (p : Interval) : Prop where
  latest : Row.latest? monitor m.store.rows = some p
  isOpen : p.endsAt = none
  last : (m.timeline monitor).getLast? = some p
  pointer : m.board.current? monitor = some p.statusId

variable {e : Engine} {m : Memory} {stamp : Stamp} {monitor : Uuid} {p : Interval}

theorem wellFormed_answer (h : m.store.WellFormed) {c : Call}
    (hfresh : c.inserts = true → m.store.contains stamp.id = false) : (m.answer stamp c).2.store.WellFormed := by
  rcases m.store_answer stamp c with ⟨c, rfl⟩ | hsame
  . rw [Call.inserts_store] at hfresh
    exact h.answer hfresh
  . rw [hsame]
    exact h

/--
A call that inserts nothing leaves identifiers as new as they are.
-/
theorem fresh_answer {c : Call} (hc : c.inserts = false) {id : Uuid} (hf : m.store.contains id = false) :
    (m.answer stamp c).2.store.contains id = false := by
  rcases m.store_answer stamp c with ⟨c, rfl⟩ | hsame
  . rw [Store.contains_eq_false] at hf ⊢
    intro r hr
    rcases Store.stems_answer (s := m.store) (c := c) hr with ⟨hdraws, _⟩ | ⟨r₀, hr₀, hid, _⟩
    . rw [Call.inserts_store, hdraws] at hc
      cases hc
    . rw [← hid]
      exact hf r₀ hr₀
  . rw [hsame]
    exact hf

namespace Reached

theorem wellFormed (h : Reached m) : m.store.WellFormed := by
  induction h with
  | start directory => exact Store.consistent_empty.wellFormed
  | called h stamp c hfresh ih => exact wellFormed_answer ih hfresh
  | queued h key ih => exact ih

theorem settled (h : Reached m) : m.locks.Settled := by
  induction h with
  | start directory => exact .empty
  | called h stamp c hfresh ih => exact settled_answer ih c
  | queued h key ih => exact ih.enter key

theorem run_insertless {α : Type} {p : Program α} (hp : p.Confined (·.inserts = false)) (h : Reached m) :
    Reached (p.run (fun m c => m.answer stamp c) m).2 := by
  induction p generalizing m with
  | done a => exact h
  | call c next ih => exact ih _ (hp.2 _) (h.called stamp c (by simp [hp.1]))

theorem run {α : Type} {p : Program α} (hp : p.InsertsOnce) (h : Reached m) (hf : m.store.contains stamp.id = false) :
    Reached (p.run (fun m c => m.answer stamp c) m).2 := by
  induction p generalizing m with
  | done a => exact h
  | call c next ih =>
    have hnext : Reached (m.answer stamp c).2 := h.called stamp c fun _ => hf
    unfold Program.InsertsOnce at hp
    split at hp
    . exact run_insertless (p := next _) (hp _) hnext
    . next hc => exact ih _ (hp _) hnext (fresh_answer (Bool.eq_false_iff.2 hc) hf)

/--
Whole requests lead from reached memories to reached ones.
-/
theorem serve (h : Reached m) (e : Engine) (r : Request) (hf : m.store.contains stamp.id = false) :
    Reached (serve e m stamp r).2 :=
  h.run (r.insertsOnce_operation e) hf

theorem after (e : Engine) (directory : Directory) {turns : List Turn} (hids : (turns.map (·.stamp.id)).Nodup) :
    Reached (after e { directory } turns) :=
  after_induction hids (fun _ _ => rfl) (.start directory) fun _ t _ h hf => h.serve e t.request hf

end Reached

section Free

variable (h : m.locks.Settled) (hfree : ∀ c ∈ m.locks.claims, c.key ≠ Engine.lockKey monitor)

include h hfree

theorem serve_record_free (e : Engine) (stamp : Stamp) {r : ChangeRequest} {status : Uuid}
    (hmonitor : r.monitorId = some monitor) (hstatus : r.statusId = some status) :
    ∃ locks, locks.Settled ∧ locks.claims = m.locks.claims ∧ Memory.serve e m stamp (.record r) =
      ((m.succeedWhole stamp (Engine.opening monitor status r (m.rootCause e r))).1,
        { (m.succeedWhole stamp (Engine.opening monitor status r (m.rootCause e r))).2 with locks }) := by
  obtain ⟨locks, hsettled, hclaims, hserve⟩ :=
    perform_locked_free h hfree (perform_recordLocked_locks e m stamp monitor status r)
  refine ⟨locks, hsettled, hclaims, ?_⟩
  rw [← hserve]
  show m.perform stamp (e.record r) = _
  unfold Engine.record
  simp only [hmonitor, hstatus]

theorem serve_delete_free (e : Engine) (stamp : Stamp) {id : Uuid} {row : Row} (hfind : m.store.find? id = some row)
    (hmonitor : row.interval.monitorId = monitor) :
    ∃ locks, Memory.serve e m stamp (.delete id) = ((m.deleteWhole id).1, { (m.deleteWhole id).2 with locks }) := by
  obtain ⟨locks, _, _, hserve⟩ := perform_locked_free h hfree (perform_deleteLocked_locks e m stamp id)
  refine ⟨locks, ?_⟩
  rw [← hserve]
  show m.perform stamp (e.delete id) = _
  unfold Engine.delete
  simp only [perform_bind, perform_get, hfind, hmonitor]

end Free

section Current

variable {new : NewInterval} (hc : m.Current new.monitorId p)

include hc

theorem succeedWhole_current :
    m.succeedWhole stamp new =
      (.ok
        { interval := (m.store.insert stamp new).1
          closedPrior := some p.id
          pointer := { monitorId := new.monitorId, statusId := new.statusId } },
        { m with
          store := m.store.succeeded stamp new p.id
          board := m.board.set { monitorId := new.monitorId, statusId := new.statusId } }) := by
  have happ := Store.append_succeeded stamp new (Store.contains_of_mem (Store.latest?_mem hc.latest))
  simp only [succeedWhole, hc.latest, Option.map_some, happ]
  rfl

/--
Deleting the interval that was recorded last brings back the rows.
-/
theorem deleteWhole_succeeded (h : m.store.WellFormed) (hf : m.store.contains stamp.id = false)
    (hafter : p.startsAt < (m.store.insert stamp new).1.startsAt) (m₁ : Memory)
    (hstore : m₁.store = m.store.succeeded stamp new p.id) :
    ∃ store, store.rows = m.store.rows ∧
      (∃ row, m₁.store.find? stamp.id = some row ∧ row.interval.monitorId = new.monitorId) ∧
      m₁.deleteWhole stamp.id =
        (.ok
          { deleted := (m.store.insert stamp new).1
            repair := some { intervalId := p.id, endsAt := none }
            pointer := some { monitorId := new.monitorId, statusId := p.statusId } },
          { m₁ with store, board := m₁.board.set { monitorId := new.monitorId, statusId := p.statusId } }) := by
  have hp : p ∈ m.store.history new.monitorId := Store.latest?_mem hc.latest
  obtain ⟨row, hfind, hinterval⟩ := Store.find?_succeeded h hf hp
  have hmany := Store.one_lt_length_succeeded hf hp
  obtain ⟨store, happ, hrows⟩ := Store.applyDeletion_succeeded h hf hp hc.last hafter hc.isOpen
  have hneighbors := Store.neighbors_succeeded h hf hp hc.last hafter
  have hpointer : latestPointer store new.monitorId =
      some { monitorId := new.monitorId, statusId := p.statusId } := by
    rw [latestPointer, hrows, hc.latest]
    rfl
  rw [← hstore] at hfind hmany happ hneighbors
  rw [hneighbors] at happ
  have hmonitor : (m.store.insert stamp new).1.monitorId = new.monitorId := rfl
  refine ⟨store, hrows, ⟨row, hfind, hinterval ▸ hmonitor⟩, ?_⟩
  simp only [deleteWhole, hfind, hinterval, hmonitor, Store.length_history, Nat.not_le.2 hmany, if_false, cutOutWhole,
    happ, hpointer, hneighbors, putPointer]
  rfl

end Current

/--
In every memory that calls and requests lead to, a status change that is recorded behind the current interval of a
monitor is undone by deleting the interval that it opened. Both requests succeed, as nobody else claims the lock of the
monitor. In between the current interval is closed and the pointer moved on; in the end the intervals and the pointers
of all monitors are as they were before.
-/
theorem deletion_undoes_record (e : Engine) (m : Memory) (hm : Reached m) (monitor : Uuid) (p : Interval)
    (hcurrent : m.Current monitor p) (request : ChangeRequest) (hmonitor : request.monitorId = some monitor)
    (hstatus : request.statusId.isSome) (stamp later : Stamp) (hfresh : m.store.contains stamp.id = false)
    (hafter : p.startsAt < request.startsAt.getD (m.store.nextCreatedAt stamp.now))
    (hfree : ∀ c ∈ m.locks.claims, c.key ≠ Engine.lockKey monitor) :
    ∃ change m₁ outcome m₂,
      serve e m stamp (.record request) = (.ok change, m₁) ∧
      serve e m₁ later (.delete change.interval.id) = (.ok outcome, m₂) ∧
      m₁.store.intervals =
        Interval.closing (some p.id) change.interval.createdAt (m.store.intervals ++ [change.interval]) ∧
      m₁.board.current? monitor = request.statusId ∧
      outcome.deleted = change.interval ∧ outcome.repair = some { intervalId := p.id, endsAt := none } ∧
      m₂.store.intervals = m.store.intervals ∧ (∀ M, m₂.timeline M = m.timeline M) ∧
      ∀ M, m₂.board.current? M = m.board.current? M := by
  obtain ⟨status, hstatus⟩ := Option.isSome_iff_exists.1 hstatus
  have hnew : m.Current (Engine.opening monitor status request (m.rootCause e request)).monitorId p := hcurrent
  obtain ⟨locks, hsettled, hclaims, hrecord⟩ := serve_record_free hm.settled hfree e stamp hmonitor hstatus
  rw [succeedWhole_current hnew] at hrecord
  obtain ⟨store, hrows, ⟨row, hfind, hrowMonitor⟩, hdelete⟩ :=
    deleteWhole_succeeded hnew hm.wellFormed hfresh hafter
      { m with
        store := m.store.succeeded stamp (Engine.opening monitor status request (m.rootCause e request)) p.id
        board := m.board.set { monitorId := monitor, statusId := status }
        locks } rfl
  obtain ⟨locks', hserve⟩ := serve_delete_free hsettled (hclaims ▸ hfree) e later hfind hrowMonitor
  rw [hdelete] at hserve
  refine ⟨_, _, _, _, hrecord, hserve, Store.intervals_succeeded _ _, ?_, rfl, rfl, ?_, ?_, ?_⟩
  . rw [hstatus]
    exact (m.board.current?_set _ monitor).trans (if_pos rfl)
  . exact congrArg (List.map (·.interval)) hrows
  . exact fun M => congrArg (Row.timeline M) hrows
  . intro M
    simp only [Board.current?_set]
    split
    . next hM =>
      rw [hM, hnew.pointer]
    . next hM => exact if_neg hM

/--
The interval that ends the run is current. A third one is recorded behind it and deleted, while someone holds the lock
of another monitor.
-/
theorem deletion_undoes_record_tied :
    let m : Memory :=
      { after {} {} tied with locks := ((after {} {} tied).locks.enter (Engine.lockKey (.ofSerial 9))).2 }
    let request : ChangeRequest :=
      { monitorId := some (.ofSerial 1), statusId := some (.ofSerial 3), startsAt := some (.ofNanos 7000) }
    let stamp : Stamp := { id := .ofSerial 13, now := .ofNanos 6000 }
    let later : Stamp := { id := .ofSerial 14, now := .ofNanos 6500 }
    Reached m ∧ m.Current (.ofSerial 1) tiedSecond ∧ m.store.contains stamp.id = false ∧
      tiedSecond.startsAt < request.startsAt.getD (m.store.nextCreatedAt stamp.now) ∧
      (∀ c ∈ m.locks.claims, c.key ≠ Engine.lockKey (.ofSerial 1)) ∧ m.locks.claims ≠ [] ∧
      ∃ change m₁ outcome m₂,
        serve {} m stamp (.record request) = (.ok change, m₁) ∧
        serve {} m₁ later (.delete change.interval.id) = (.ok outcome, m₂) ∧
        m₁.store.intervals =
          Interval.closing (some tiedSecond.id) change.interval.createdAt (m.store.intervals ++ [change.interval]) ∧
        m₁.board.current? (.ofSerial 1) = request.statusId ∧
        outcome.deleted = change.interval ∧ outcome.repair = some { intervalId := tiedSecond.id, endsAt := none } ∧
        m₂.store.intervals = m.store.intervals ∧ (∀ M, m₂.timeline M = m.timeline M) ∧
        ∀ M, m₂.board.current? M = m.board.current? M := by
  intro m request stamp later
  have hm : Reached m := .queued (.after {} {} (by decide +kernel)) _
  have hcurrent : m.Current (.ofSerial 1) tiedSecond :=
    ⟨rfl, rfl, congrArg List.getLast? timeline_tied, rfl⟩
  have hfresh : m.store.contains stamp.id = false := rfl
  have hafter : tiedSecond.startsAt < request.startsAt.getD (m.store.nextCreatedAt stamp.now) := by decide
  have hfree : ∀ c ∈ m.locks.claims, c.key ≠ Engine.lockKey (.ofSerial 1) := by decide +kernel
  exact ⟨hm, hcurrent, hfresh, hafter, hfree, by decide +kernel,
    deletion_undoes_record {} m hm _ _ hcurrent request rfl rfl stamp later hfresh hafter hfree⟩

end Memory

end StatusTimeline
