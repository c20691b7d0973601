import StatusTimeline.Proofs.Store.History

/-!
This module contains the identifiers of a store's rows and of one monitor's history, in the order of insertion: appends
add one at the end, and nothing else adds any.
-/

namespace StatusTimeline

namespace Store

def ids (s : Store) : List Uuid := s.rows.map (·.interval.id)

def lineage (s : Store) (monitor : Uuid) : List Uuid := (s.history monitor).map (·.id)

variable {s : Store} {monitor id : Uuid}

theorem mem_ids : id ∈ s.ids ↔ s.contains id = true := by
  rw [contains_iff]
  exact List.mem_map

theorem ids_setEnd (id : Uuid) (e : Option Instant) : (s.setEnd id e).ids = s.ids := by
  unfold ids setEnd
  rw [List.map_map]
  apply List.map_congr_left
  intro r _
  simp only [Function.comp]
  split <;> rfl

theorem lineage_setEnd (e : Option Instant) : (s.setEnd id e).lineage monitor = s.lineage monitor := by
  unfold lineage
  rw [history_setEnd, List.map_map]
  apply List.map_congr_left
  intro i _
  exact Interval.endAt_id ..

theorem WellFormed.lineage_nodup (h : s.WellFormed) (monitor : Uuid) : (s.lineage monitor).Nodup :=
  List.pairwise_map.2 (h.ids_history monitor)

theorem ids_append {stamp : Stamp} {new : NewInterval} {close : Option Uuid} :
    List.Sublist (s.append stamp new close).2.ids (s.ids ++ [stamp.id]) := by
  have hinsert : (s.insert stamp new).2.ids = s.ids ++ [stamp.id] := by
    simp [ids, insert, NewInterval.materialise]
  cases close with
  | none => exact hinsert ▸ List.Sublist.refl _
  | some prior =>
    simp only [append]
    split
    . have hids := (ids_setEnd prior (some (s.insert stamp new).1.createdAt)).trans hinsert
      exact hids ▸ List.Sublist.refl _
    . exact List.sublist_append_left ..

theorem ids_erase (s : Store) (id : Uuid) : List.Sublist (s.erase id).ids s.ids :=
  List.Sublist.map _ List.filter_sublist

theorem ids_applyDeletion {plan : DeletionPlan} : List.Sublist (s.applyDeletion plan).2.ids s.ids := by
  unfold applyDeletion
  split
  . exact List.Sublist.refl _
  . split
    . exact ids_erase s plan.target
    . split
      . next repair _ _ =>
        have h := ids_erase (s.setEnd repair.intervalId repair.endsAt) plan.target
        rw [ids_setEnd] at h
        exact h
      . exact List.Sublist.refl _

theorem erased_of_applyDeletion {plan : DeletionPlan} {store : Store} (h : s.applyDeletion plan = (.ok (), store)) :
    plan.target ∉ store.ids := by
  have herase : ∀ s : Store, plan.target ∉ (s.erase plan.target).ids := by
    intro s hmem
    obtain ⟨r, hr, hid⟩ := List.mem_map.1 hmem
    simpa [hid] using (List.mem_filter.1 hr).2
  unfold applyDeletion at h
  split at h
  . cases h
  . split at h
    . cases h
      exact herase _
    . split at h
      . cases h
        exact herase _
      . cases h

theorem lineage_append {stamp : Stamp} {new : NewInterval} {close : Option Uuid} {created : Interval}
    {store : Store} (h : s.append stamp new close = (.ok created, store)) :
    store.lineage monitor = s.lineage monitor ++ if new.monitorId = monitor then [stamp.id] else [] := by
  have hinsert : (s.insert stamp new).2.lineage monitor =
      s.lineage monitor ++ if new.monitorId = monitor then [stamp.id] else [] := by
    unfold lineage
    rw [history_insert, List.map_append]
    congr 1
    split <;> rfl
  cases close with
  | none =>
    cases h
    exact hinsert
  | some prior =>
    simp only [append] at h
    split at h
    . cases h
      rw [lineage_setEnd]
      exact hinsert
    . cases h

end Store

end StatusTimeline
