import StatusTimeline.Proofs.Engine.Snapshot
import StatusTimeline.Proofs.Store.Sorted

/-!
This module contains the store after an interval was appended behind the one that is both the last created and the
last to start. The plan for deleting the new interval finds the same one before it, and brings back the rows as they
were.
-/

namespace StatusTimeline

namespace Store

/--
The store after an interval was appended and another one closed at its creation.
-/
def succeeded (s : Store) (stamp : Stamp) (new : NewInterval) (prior : Uuid) : Store :=
  (s.insert stamp new).2.setEnd prior (some (s.nextCreatedAt stamp.now))

variable {s : Store} {stamp : Stamp} {new : NewInterval} {p : Interval} {prior : Uuid}

theorem append_succeeded (stamp : Stamp) (new : NewInterval) (h : s.contains prior = true) :
    s.append stamp new (some prior) = (.ok (s.insert stamp new).1, s.succeeded stamp new prior) := by
  simp only [append, h, if_true]
  rfl

theorem intervals_succeeded (stamp : Stamp) (new : NewInterval) :
    (s.succeeded stamp new prior).intervals =
      Interval.closing (some prior) (s.insert stamp new).1.createdAt (s.intervals ++ [(s.insert stamp new).1]) := by
  rw [succeeded, intervals_setEnd, intervals_insert]
  rfl

theorem setEnd_setEnd (s : Store) (id : Uuid) (e e' : Option Instant) :
    (s.setEnd id e).setEnd id e' = s.setEnd id e' := by
  simp only [setEnd, List.map_map]
  congr 2
  funext r
  simp only [Function.comp]
  split
  . next hid => simp [Row.withEnd, hid]
  . rfl

theorem rows_erase_insert (hf : s.contains stamp.id = false) :
    ((s.insert stamp new).2.erase stamp.id).rows = s.rows := by
  have hold : s.rows.filter (·.interval.id ≠ stamp.id) = s.rows := by
    rw [List.filter_eq_self]
    simpa using contains_eq_false.1 hf
  have hnew : (new.materialise stamp.id (s.nextCreatedAt stamp.now)).id = stamp.id := rfl
  simp only [erase, insert, List.filter_append, hold]
  simp [hnew]

/--
Giving an interval the end that it has changes nothing.
-/
theorem WellFormed.setEnd_self (h : s.WellFormed) {monitor : Uuid} (hp : p ∈ s.history monitor) :
    s.setEnd p.id p.endsAt = s := by
  obtain ⟨r, hr, rfl, _⟩ := mem_history.1 hp
  have hsame : ∀ q ∈ s.rows, (if q.interval.id = r.interval.id then q.withEnd r.interval.endsAt else q) = q := by
    intro q hq
    split
    . next hid =>
      rw [h.eq_of_id hq hr hid]
      rfl
    . rfl
  simp only [Store.setEnd, List.map_congr_left hsame, List.map_id']

section Succeeded

variable (h : s.WellFormed) (hf : s.contains stamp.id = false) (hp : p ∈ s.history new.monitorId)

include hf hp in
theorem ne_of_fresh : stamp.id ≠ p.id := by
  intro heq
  rw [heq, contains_of_mem hp] at hf
  cases hf

include h hf in
theorem wellFormed_succeeded : (s.succeeded stamp new prior).WellFormed := (h.insert new hf).setEnd _ _

include h hf hp in
/--
Opening the interval before the new one again and taking the new one out brings back the rows.
-/
theorem rows_reopened (hopen : p.endsAt = none) :
    (((s.succeeded stamp new p.id).setEnd p.id none).erase stamp.id).rows = s.rows := by
  have hmem : p ∈ (s.insert stamp new).2.history new.monitorId := by
    rw [history_insert]
    exact List.mem_append_left _ hp
  rw [succeeded, setEnd_setEnd, ← hopen, (h.insert new hf).setEnd_self hmem, rows_erase_insert hf]

include hf hp in
theorem history_succeeded : (s.succeeded stamp new p.id).history new.monitorId =
    (s.history new.monitorId).map (Interval.endAt p.id (some (s.nextCreatedAt stamp.now))) ++
      [(s.insert stamp new).1] := by
  have hne : (s.insert stamp new).1.id ≠ p.id := ne_of_fresh hf hp
  rw [succeeded, history_setEnd, history_insert, if_pos rfl, List.map_append, List.map_singleton, Interval.endAt,
    if_neg hne]

include hf hp in
theorem one_lt_length_succeeded : 1 < ((s.succeeded stamp new p.id).history new.monitorId).length := by
  have hpos := List.length_pos_of_mem hp
  rw [history_succeeded hf hp, List.length_append, List.length_map, List.length_singleton]
  omega

include h hf hp in
theorem find?_succeeded : ∃ row,
    (s.succeeded stamp new p.id).find? stamp.id = some row ∧ row.interval = (s.insert stamp new).1 := by
  have hcreated : (s.insert stamp new).1 ∈ (s.succeeded stamp new p.id).history new.monitorId := by
    rw [history_succeeded hf hp]
    exact List.mem_append_right _ (List.mem_singleton_self _)
  obtain ⟨row, hrow, hinterval, _⟩ := mem_history.1 hcreated
  exact ⟨row, (wellFormed_succeeded h hf).find?_eq_some_iff.2 ⟨hrow, hinterval ▸ rfl⟩, hinterval⟩

variable (hlast : (Row.timeline new.monitorId s.rows).getLast? = some p)
  (hafter : p.startsAt < (s.insert stamp new).1.startsAt)

include h hlast hafter in
/--
All intervals start before the new one, whatever their ends are.
-/
theorem startsAt_lt_of_map (id : Uuid) (e : Option Instant) :
    ∀ i ∈ (Row.timeline new.monitorId s.rows).map (Interval.endAt id e),
      i.startsAt < (s.insert stamp new).1.startsAt := by
  obtain ⟨is, hsplit⟩ := List.getLast?_eq_some_iff.1 hlast
  have horder := h.timeline_inOrder new.monitorId
  rw [hsplit] at horder ⊢
  rw [List.forall_mem_map]
  intro i hi
  have hle : i.startsAt ≤ p.startsAt := by
    rcases List.mem_append.1 hi with hi | hi
    . exact ((List.pairwise_append.1 horder).2.2 i hi p (by simp)).le
    . rw [List.mem_singleton.1 hi]
      exact Int.le_refl _
  have hstart : (Interval.endAt id e i).startsAt = i.startsAt := by
    unfold Interval.endAt
    split <;> rfl
  rw [hstart]
  simp only [Instant.lt_def, Instant.le_def] at *
  omega

include h hf hp hlast hafter

theorem timeline_succeeded : Row.timeline new.monitorId (s.succeeded stamp new p.id).rows =
    (Row.timeline new.monitorId s.rows).map (Interval.endAt p.id (some (s.nextCreatedAt stamp.now))) ++
      [(s.insert stamp new).1] := by
  have hstarts := startsAt_lt_of_map h hlast hafter p.id (some (s.nextCreatedAt stamp.now))
  apply ((wellFormed_succeeded h hf).timeline_inOrder new.monitorId).eq_of_perm
  . unfold Interval.InOrder
    rw [List.pairwise_append]
    refine ⟨(h.timeline_inOrder new.monitorId).map_endAt _ _, List.pairwise_singleton _ _, ?_⟩
    intro i hi j hj
    rw [List.mem_singleton.1 hj]
    exact .inl (hstarts i hi)
  . apply (timeline_perm _ _).trans
    rw [history_succeeded hf hp]
    exact ((s.timeline_perm new.monitorId).symm.map _).append_right _

/--
The new interval has the one before it that was closed for it, and none after it.
-/
theorem neighbors_succeeded :
    Row.neighbors new.monitorId (s.insert stamp new).1.startsAt (s.succeeded stamp new p.id).rows =
      { before := some { p with endsAt := some (s.nextCreatedAt stamp.now) }, after := none } := by
  have hstarts := startsAt_lt_of_map h hlast hafter p.id (some (s.nextCreatedAt stamp.now))
  have hself : ¬ (s.insert stamp new).1.startsAt < (s.insert stamp new).1.startsAt := Int.lt_irrefl _
  have hbefore : ((Row.timeline new.monitorId s.rows).map
      (Interval.endAt p.id (some (s.nextCreatedAt stamp.now))) ++ [(s.insert stamp new).1]).filter
        (·.startsAt < (s.insert stamp new).1.startsAt) =
      (Row.timeline new.monitorId s.rows).map (Interval.endAt p.id (some (s.nextCreatedAt stamp.now))) := by
    rw [List.filter_append, List.filter_eq_self.2 (by simpa using hstarts)]
    simp [hself]
  have hafter' : ((Row.timeline new.monitorId s.rows).map
      (Interval.endAt p.id (some (s.nextCreatedAt stamp.now))) ++ [(s.insert stamp new).1]).filter
        ((s.insert stamp new).1.startsAt < ·.startsAt) = [] := by
    rw [List.filter_eq_nil_iff]
    intro i hi
    rw [List.mem_append, List.mem_singleton] at hi
    simp only [decide_eq_true_eq, Instant.lt_def] at *
    rcases hi with hi | rfl
    . have := hstarts i hi
      omega
    . omega
  rw [(wellFormed_succeeded h hf).neighbors_eq, timeline_succeeded h hf hp hlast hafter, hbefore, hafter',
    List.getLast?_map, hlast]
  simp [Interval.endAt]

/--
The plan for deleting the new interval opens the one before it again, so that all rows are as they were.
-/
theorem applyDeletion_succeeded (hopen : p.endsAt = none) :
    ∃ s', (s.succeeded stamp new p.id).applyDeletion (.restitch (s.insert stamp new).1
        (Row.neighbors new.monitorId (s.insert stamp new).1.startsAt (s.succeeded stamp new p.id).rows)) =
      (.ok (), s') ∧ s'.rows = s.rows := by
  have htarget : (s.succeeded stamp new p.id).contains (s.insert stamp new).1.id = true := by
    rw [succeeded, contains_setEnd, contains_iff]
    exact ⟨_, List.mem_append_right _ (List.mem_singleton_self _), rfl⟩
  have hprior : (s.succeeded stamp new p.id).contains p.id = true := by
    rw [succeeded, contains_setEnd]
    exact contains_insert (contains_of_mem hp)
  refine ⟨_, ?_, rows_reopened h hf hp hopen⟩
  rw [neighbors_succeeded h hf hp hlast hafter]
  simp [applyDeletion, DeletionPlan.restitch, htarget, hprior]
  rfl

end Succeeded

end Store

end StatusTimeline
