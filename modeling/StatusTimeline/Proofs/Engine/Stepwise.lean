import StatusTimeline.Proofs.Engine.Replica

/-!
This module contains engines whose store appends and deletes by several calls of its own. With nothing else at work every
call finds what it needs, since the interval to close, the target and the interval to repair were looked up in the same
store, so that such an engine cannot be told from one that appends and deletes by single calls.
-/

namespace StatusTimeline

namespace Store

variable {s : Store} {id : Uuid}

/--
The interval that is to be closed is the latest one, which is stored.
-/
theorem contains_latest {monitor prior : Uuid} (h : (Row.latest? monitor s.rows).map (·.id) = some prior) :
    s.contains prior = true := by
  obtain ⟨i, hi, rfl⟩ := Option.map_eq_some_iff.1 h
  exact contains_of_mem (latest?_mem hi)

/--
The interval that is to be repaired is a neighbour of the target, which is stored too.
-/
theorem contains_repair {target : Interval} {repair : EndRepair}
    (h : (DeletionPlan.restitch target (Row.neighbors target.monitorId target.startsAt s.rows)).repair = some repair) :
    s.contains repair.intervalId = true := by
  obtain ⟨before, hbefore, rfl⟩ := Option.map_eq_some_iff.1 h
  exact contains_of_mem (before_mem hbefore)

theorem contains_find? {row : Row} (h : s.find? id = some row) : s.contains row.interval.id = true :=
  contains_iff.2 ⟨row, (find?_mem h).1, rfl⟩

end Store

namespace Memory

variable {e : Engine} {m : Memory} {stamp : Stamp}

/--
Where the interval to close is stored, an engine appends as its store does.
-/
theorem perform_append {new : NewInterval} {close : Option Uuid}
    (hclose : ∀ prior, close = some prior → m.store.contains prior = true) :
    m.perform stamp (e.append new close) =
      ((m.store.append stamp new close).1, { m with store := (m.store.append stamp new close).2 }) := by
  unfold Engine.append
  cases e.compound with
  | whole => exact perform_store _
  | stepwise =>
    unfold Engine.appendStepwise
    rw [perform_bind, perform_store]
    cases close with
    | none => rfl
    | some prior =>
      have hprior := hclose prior rfl
      have hinserted : (m.store.insert stamp new).2.contains prior = true := Store.contains_insert hprior
      simp only [Store.answer, perform_bind, perform_tryCatch, perform_store, hinserted, if_true, perform_pure,
        Store.append, hprior]

theorem perform_applyDeletion {plan : DeletionPlan} (htarget : m.store.contains plan.target = true)
    (hrepair : ∀ repair, plan.repair = some repair → m.store.contains repair.intervalId = true) :
    m.perform stamp (e.applyDeletion plan) =
      ((m.store.applyDeletion plan).1, { m with store := (m.store.applyDeletion plan).2 }) := by
  unfold Engine.applyDeletion
  cases e.compound with
  | whole => exact perform_store _
  | stepwise =>
    unfold Engine.applyDeletionStepwise
    cases hplan : plan.repair with
    | none => simp [perform_store, Store.answer, Store.applyDeletion, htarget, hplan]
    | some repair =>
      have hfound := hrepair repair hplan
      simp [perform_bind, perform_store, Store.answer, Store.applyDeletion, Store.contains_setEnd, htarget, hplan, hfound]

theorem perform_succeed_any (new : NewInterval) : m.perform stamp (e.succeed new) = m.succeedWhole stamp new := by
  unfold Engine.succeed succeedWhole
  simp only [perform_bind, perform_store, Store.answer, perform_append fun _ => Store.contains_latest,
    perform_setPointer, perform_pure]
  cases m.store.append stamp new ((Row.latest? new.monitorId m.store.rows).map (·.id)) with
  | mk outcome store => cases outcome <;> rfl

theorem perform_cutOut_any {target : Interval} (htarget : m.store.contains target.id = true) :
    m.perform stamp (e.cutOut target) = m.cutOutWhole target := by
  unfold Engine.cutOut cutOutWhole
  simp only [perform_bind, perform_store, Store.answer]
  rw [perform_applyDeletion htarget fun _ => Store.contains_repair]
  simp only [perform_settle, perform_pure]
  cases m.store.applyDeletion (.restitch target (Row.neighbors target.monitorId target.startsAt m.store.rows)) with
  | mk outcome store => cases outcome <;> rfl

theorem perform_deleteLocked_any (id : Uuid) : m.perform stamp (e.deleteLocked id) = m.deleteWhole id := by
  rw [Engine.deleteLocked_eq, perform_bind, perform_get]
  unfold deleteWhole
  cases hfind : m.store.find? id with
  | none => rfl
  | some row =>
    simp only [Engine.cutOutOne, perform_bind, perform_store, Store.answer]
    split
    . rfl
    . exact perform_cutOut_any (Store.contains_find? hfind)

theorem perform_locked_congr {body body' : Operation α} (h : ∀ m : Memory, m.perform stamp body = m.perform stamp body')
    (monitor : Uuid) :
    m.perform stamp (Engine.locked monitor body) = m.perform stamp (Engine.locked monitor body') := by
  unfold Engine.locked
  simp only [perform_bind, perform_finish, h]

theorem serve_compound (compound : Compound) (r : Request) :
    serve { e with compound } m stamp r = serve e m stamp r := by
  cases r with
  | record r =>
    show m.perform stamp (Engine.record { e with compound } r) = m.perform stamp (e.record r)
    unfold Engine.record
    cases r.monitorId with
    | none => rfl
    | some monitor =>
      cases r.statusId with
      | none => rfl
      | some status =>
        apply perform_locked_congr
        intro m
        simp only [Engine.recordLocked_eq, perform_bind, perform_rootCause, perform_succeed_any]
        rfl
  | delete id =>
    show m.perform stamp (Engine.delete { e with compound } id) = m.perform stamp (e.delete id)
    unfold Engine.delete
    rw [perform_bind, perform_bind, perform_get]
    cases m.store.find? id with
    | none => rfl
    | some row =>
      apply perform_locked_congr
      intro m
      rw [perform_deleteLocked_any, perform_deleteLocked_any]
  | _ => rfl

/--
Over every run of requests, from whatever state, an engine over a store that inserts, sets ends and removes by calls of
their own gives the same answers and leaves the same state as one over a store that appends and deletes whole.
-/
theorem stepwise_as_whole (e : Engine) (m : Memory) (turns : List Turn) :
    answers { e with compound := .stepwise } m turns = answers { e with compound := .whole } m turns ∧
      after { e with compound := .stepwise } m turns = after { e with compound := .whole } m turns := by
  have hserve : ∀ (m : Memory) (t : Turn), serve { e with compound := .stepwise } m t.stamp t.request =
      serve { e with compound := .whole } m t.stamp t.request := fun m t =>
    (serve_compound .stepwise t.request).trans (serve_compound .whole t.request).symm
  induction turns generalizing m with
  | nil => exact ⟨rfl, rfl⟩
  | cons t ts ih =>
    obtain ⟨hanswers, hafter⟩ := ih (serve { e with compound := .whole } m t.stamp t.request).2
    simp only [answers, after, hserve, hanswers, hafter, and_self]

end Memory

end StatusTimeline
