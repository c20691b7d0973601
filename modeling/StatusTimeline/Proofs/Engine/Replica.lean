import StatusTimeline.Proofs.Engine.Balance
import StatusTimeline.Proofs.Engine.Snapshot

/-!
This module contains replicas of an engine's intervals and status pointers, which see nothing of the engine but the
answers to its writing requests. A replica that follows the answers stays equal to what it replicates, so the answers
tell all that a request changes.
-/

namespace StatusTimeline

/--
The monitor whose intervals a request writes, as far as there is one.
-/
def Request.monitor? (s : Store) : Request → Option Uuid
  | .record r => r.monitorId
  | .delete id => (s.find? id).map (·.interval.monitorId)
  | _ => none

namespace Snapshot

/--
What a replica makes of the answer to a request. An error changes nothing.
-/
def follow (v : Snapshot) : (r : Request) → Except Error r.Answer → Snapshot
  | .record _, .ok change =>
    let added := v.intervals ++ [change.interval]
    let intervals := Interval.closing change.closedPrior change.interval.createdAt added
    pointed { v with intervals } change.pointer
  | .delete _, .ok outcome =>
    let plan : DeletionPlan := { target := outcome.deleted.id, repair := outcome.repair }
    let left : Snapshot := { v with intervals := plan.applyTo v.intervals }
    match outcome.pointer with
    | some update => left.pointed update
    | none => left
  | _, _ => v

def replay (v : Snapshot) (answers : List ((r : Request) × Except Error r.Answer)) : Snapshot :=
  answers.foldl (fun v x => v.follow x.1 x.2) v

end Snapshot

theorem Store.Becomes.history_of_ne {s s' : Store} {r : Request} (h : s.Becomes r s') (hr : r.Writes) {M : Uuid}
    (hM : r.monitor? s ≠ some M) : s'.history M = s.history M := by
  cases h with
  | same => rfl
  | purged cutoff => exact hr.elim
  | opened monitor hmonitor _ _ _ hother =>
    apply hother
    intro heq
    exact hM (hmonitor.trans (congrArg some heq.symm))
  | cut row n hrow _ _ _ _ _ hother =>
    apply hother
    intro heq
    simp [Request.monitor?, hrow, heq] at hM

namespace Memory

/--
The requests of a run with the answers that they get.
-/
def answers (e : Engine) (m : Memory) : List Turn → List ((r : Request) × Except Error r.Answer)
  | [] => []
  | t :: ts => ⟨t.request, (serve e m t.stamp t.request).1⟩ :: (serve e m t.stamp t.request).2.answers e ts

variable {e : Engine} {m : Memory} {stamp : Stamp} {r : Request}

theorem answers_append (ts ts' : List Turn) :
    m.answers e (ts ++ ts') = m.answers e ts ++ (m.after e ts).answers e ts' := by
  induction ts generalizing m with
  | nil => rfl
  | cons t ts ih => exact congrArg _ ih

section Answers

theorem succeedWhole_snapshot (r : ChangeRequest) (new : NewInterval) :
    (m.succeedWhole stamp new).2.snapshot =
      m.snapshot.follow (.record r) (m.succeedWhole stamp new).1 := by
  unfold succeedWhole
  dsimp only
  rcases m.store.intervals_append stamp new
    ((Row.latest? new.monitorId m.store.rows).map (·.id)) with ⟨created, hok, hintervals⟩ | ⟨err, happ⟩
  . cases happ : m.store.append stamp new ((Row.latest? new.monitorId m.store.rows).map (·.id)) with
    | mk answer store =>
      rw [happ] at hok hintervals
      cases hok
      refine (snapshot_set { m with store } _).trans ?_
      simp only [snapshot, hintervals, Snapshot.follow]
  . rw [happ]
    rfl

theorem cutOutWhole_snapshot (id : Uuid) (target : Interval) :
    (m.cutOutWhole target).2.snapshot = m.snapshot.follow (.delete id) (m.cutOutWhole target).1 := by
  unfold cutOutWhole
  dsimp only
  generalize hplan : DeletionPlan.restitch target
    (Row.neighbors target.monitorId target.startsAt m.store.rows) = plan
  have htarget : plan.target = target.id := by rw [← hplan]; rfl
  rcases m.store.intervals_applyDeletion plan with ⟨hok, hintervals⟩ | ⟨err, happ⟩
  . cases happ : m.store.applyDeletion plan with
    | mk answer store =>
      rw [happ] at hok hintervals
      cases hok
      dsimp only at hintervals ⊢
      simp only [Snapshot.follow, ← htarget]
      cases latestPointer store target.monitorId with
      | none => simp only [putPointer, snapshot, hintervals]
      | some update =>
        refine (snapshot_set { m with store } update).trans ?_
        simp only [snapshot, hintervals]
  . rw [happ]
    rfl

theorem deleteWhole_snapshot (id : Uuid) :
    (m.deleteWhole id).2.snapshot = m.snapshot.follow (.delete id) (m.deleteWhole id).1 := by
  unfold deleteWhole
  cases m.store.find? id with
  | none => rfl
  | some row =>
    dsimp only
    split
    . rfl
    . exact cutOutWhole_snapshot id row.interval

/--
A writing request changes what its answer tells a replica to change.
-/
theorem serve_snapshot (he : e.compound = .whole) (hidle : m.locks.claims = []) (hr : r.Writes) :
    (serve e m stamp r).2.snapshot = m.snapshot.follow r (serve e m stamp r).1 := by
  cases r with
  | record r =>
    rw [serve_record he hidle]
    split
    . rfl
    . rfl
    . exact succeedWhole_snapshot r _
  | delete id =>
    rw [serve_delete he hidle]
    split
    . rfl
    . exact deleteWhole_snapshot id
  | _ => exact hr.elim

end Answers

section Elsewhere

variable {M : Uuid}

theorem succeedWhole_current? {new : NewInterval} (hM : new.monitorId ≠ M) :
    (m.succeedWhole stamp new).2.board.current? M = m.board.current? M := by
  unfold succeedWhole
  dsimp only
  split
  . rfl
  . exact (m.board.current?_set _ M).trans (if_neg hM.symm)

theorem deleteWhole_current? {id : Uuid} (hM : (m.store.find? id).map (·.interval.monitorId) ≠ some M) :
    (m.deleteWhole id).2.board.current? M = m.board.current? M := by
  unfold deleteWhole
  cases hf : m.store.find? id with
  | none => rfl
  | some row =>
    have hM : M ≠ row.interval.monitorId := by
      intro heq
      simp [hf, heq] at hM
    dsimp only
    split
    . rfl
    . unfold cutOutWhole latestPointer
      dsimp only
      split
      . rfl
      . next store _ =>
        cases Row.latest? row.interval.monitorId store.rows with
        | none => rfl
        | some latest => exact (m.board.current?_set _ M).trans (if_neg hM)

/--
A writing request leaves the intervals and the pointers of all other monitors as they are.
-/
theorem Sound.serve_elsewhere (h : m.Sound) (he : e.compound = .whole) (hr : r.Writes)
    (hf : m.store.contains stamp.id = false) (hM : r.monitor? m.store ≠ some M) :
    (Memory.serve e m stamp r).2.store.history M = m.store.history M ∧
      (Memory.serve e m stamp r).2.board.current? M = m.board.current? M := by
  refine ⟨(h.serve he r hf).1.history_of_ne hr hM, ?_⟩
  cases r with
  | record r =>
    rw [serve_record he h.idle]
    split
    . rfl
    . rfl
    . next monitor status hmonitor _ =>
      apply succeedWhole_current?
      intro heq
      exact hM (hmonitor.trans (congrArg some heq))
  | delete id =>
    rw [serve_delete he h.idle]
    split
    . rfl
    . exact deleteWhole_current? hM
  | _ => exact hr.elim

end Elsewhere

theorem deleteWhole_deleted {id : Uuid} {outcome : DeletionOutcome} (hok : (m.deleteWhole id).1 = .ok outcome) :
    m.snapshot.intervals.find? (·.id = id) = some outcome.deleted := by
  show m.store.intervals.find? (·.id = id) = _
  rw [Store.find?_intervals]
  unfold deleteWhole at hok
  cases hf : m.store.find? id with
  | none =>
    rw [hf] at hok
    cases hok
  | some row =>
    simp only [hf] at hok
    split at hok
    . cases hok
    . unfold cutOutWhole at hok
      dsimp only at hok
      split at hok
      . cases hok
      . cases hok
        rfl

theorem serve_deleted (he : e.compound = .whole) (hidle : m.locks.claims = []) {id : Uuid}
    {outcome : DeletionOutcome} (hok : (serve e m stamp (.delete id)).1 = .ok outcome) :
    m.snapshot.intervals.find? (·.id = id) = some outcome.deleted := by
  rw [serve_delete he hidle] at hok
  cases hf : m.store.find? id with
  | none =>
    rw [hf] at hok
    cases hok
  | some row =>
    rw [hf] at hok
    exact deleteWhole_deleted hok

/--
A replica that follows the answers to a run stays equal to the memory that gives them.
-/
theorem replay_answers (he : e.compound = .whole) (hidle : m.locks.claims = []) {turns : List Turn}
    (hwrites : ∀ t ∈ turns, t.request.Writes) :
    m.snapshot.replay (m.answers e turns) = (m.after e turns).snapshot := by
  induction turns generalizing m with
  | nil => rfl
  | cons t ts ih =>
    have ht := hwrites t List.mem_cons_self
    show (m.snapshot.follow t.request _).replay _ = _
    rw [← serve_snapshot he hidle ht]
    exact ih (serve_writes he hidle ht).1 fun t' ht' => hwrites t' (List.mem_cons_of_mem t ht')

/--
From whatever memory a run has reached, a replica that follows the answers to records and deletions stays equal to it.
Each of those requests leaves other monitors alone, and a deletion answers with the interval that was stored.
-/
theorem replica_equal (e : Engine) (he : e.compound = .whole) (directory : Directory) (earlier later : List Turn)
    (hids : ((earlier ++ later).map (·.stamp.id)).Nodup) (hwrites : ∀ t ∈ later, t.request.Writes) :
    (after e { directory } earlier).snapshot.replay ((after e { directory } earlier).answers e later) =
      (after e { directory } (earlier ++ later)).snapshot ∧
    (∀ done t, done ++ [t] <+: later → ∀ M,
      t.request.monitor? (after e { directory } (earlier ++ done)).store ≠ some M →
        (after e { directory } (earlier ++ (done ++ [t]))).store.history M =
          (after e { directory } (earlier ++ done)).store.history M ∧
        (after e { directory } (earlier ++ (done ++ [t]))).board.current? M =
          (after e { directory } (earlier ++ done)).board.current? M) ∧
    (∀ done id stamp outcome, done ++ [{ request := .delete id, stamp }] <+: later →
      (serve e (after e { directory } (earlier ++ done)) stamp (.delete id)).1 = .ok outcome →
        (after e { directory } (earlier ++ done)).snapshot.intervals.find? (·.id = id) = some outcome.deleted) := by
  have hids' : ∀ done t, done ++ [t] <+: later → (((earlier ++ done) ++ [t]).map (·.stamp.id)).Nodup := by
    intro done t hpre
    rw [List.append_assoc]
    exact nodup_earlier ((List.prefix_append_right_inj earlier).2 hpre) hids
  have hsound : ∀ done t, done ++ [t] <+: later → (after e { directory } (earlier ++ done)).Sound := by
    intro done t hpre
    exact Sound.after he directory (nodup_earlier (List.prefix_append ..) (hids' done t hpre))
  refine ⟨?_, ?_, ?_⟩
  . have hsound := Sound.after he directory (nodup_earlier (List.prefix_append earlier later) hids)
    rw [after_append]
    exact replay_answers he hsound.idle hwrites
  . intro done t hpre M hM
    have hf := fresh_reached e directory (hids' done t hpre) t (by simp)
    have ht := hwrites t (hpre.subset (by simp))
    rw [← List.append_assoc, after_append (earlier ++ done)]
    exact (hsound done t hpre).serve_elsewhere he ht hf hM
  . intro done id stamp outcome hpre hok
    exact serve_deleted he (hsound done _ hpre).idle hok

/--
Two monitors: the first one's second interval starts before its first one, which is deleted in the end.
-/
def crossing : List Turn :=
  let record (monitor : Nat) (start : Option Int) : Request :=
    .record {
      monitorId := some (.ofSerial monitor)
      statusId := some (.ofSerial 3)
      startsAt := start.map .ofNanos }
  [{ request := record 1 (some 5000), stamp := { id := .ofSerial 11, now := .ofNanos 9000 } },
    { request := record 2 none, stamp := { id := .ofSerial 12, now := .ofNanos 9000 } },
    { request := record 1 (some 1000), stamp := { id := .ofSerial 13, now := .ofNanos 9000 } },
    { request := .delete (.ofSerial 14), stamp := { id := .ofSerial 14, now := .ofNanos 9000 } },
    { request := .delete (.ofSerial 11), stamp := { id := .ofSerial 15, now := .ofNanos 9000 } }]

theorem replica_equal_crossing :
    (crossing.map (·.stamp.id)).Nodup ∧ (∀ t ∈ crossing, t.request.Writes) ∧
      ((after {} {} crossing).snapshot.intervals.map (·.id) = [.ofSerial 12, .ofSerial 13]) ∧
      (({} : Memory).snapshot.replay (answers {} {} crossing) = (after {} {} crossing).snapshot) := by
  have hids : (crossing.map (·.stamp.id)).Nodup := by decide +kernel
  have hwrites : ∀ t ∈ crossing, t.request.Writes := by decide
  exact ⟨hids, hwrites, by decide +kernel, (replica_equal {} rfl {} [] crossing hids hwrites).1⟩

end Memory

end StatusTimeline
