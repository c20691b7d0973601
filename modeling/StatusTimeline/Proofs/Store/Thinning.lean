import StatusTimeline.Proofs.Store.Balance
import StatusTimeline.Proofs.Store.Sorted
import StatusTimeline.Proofs.Timeline.Linked

/-!
This module contains the thinning of a monitor's intervals by deletions. Where the timeline has no violations and no two
of its intervals start at once, a deletion gives the span of its target to the interval before and changes nothing else,
so that what is left is determined by which intervals have gone.
-/

namespace StatusTimeline

namespace Interval

theorem map_reopened_filter (gone : List Uuid) (is : List Interval) :
    (is.filter (·.id ∉ gone)).map reopened = (is.map reopened).filter (·.id ∉ gone) := by
  rw [List.filter_map]
  rfl

theorem filter_gone_concat (gone : List Uuid) (id : Uuid) (is : List Interval) :
    is.filter (·.id ∉ gone ++ [id]) = (is.filter (·.id ∉ gone)).filter (·.id ∉ [id]) := by
  rw [List.filter_filter]
  apply List.filter_congr
  intro i _
  simp [and_comm]

end Interval

theorem DeletionPlan.map_reopened_applyTo (plan : DeletionPlan) (is : List Interval) :
    (plan.applyTo is).map Interval.reopened = (is.filter (·.id ∉ [plan.target])).map Interval.reopened := by
  have hfilter : ∀ js : List Interval, js.filter (·.id ≠ plan.target) = js.filter (·.id ∉ [plan.target]) := by
    intro js
    simp
  unfold applyTo
  cases plan.repair with
  | none => simp only [hfilter]
  | some repair =>
    simp only [hfilter, Interval.map_reopened_filter, List.map_map]
    congr 2
    funext i
    exact Interval.reopened_endAt _ _ i

namespace Store

/--
Nothing is wrong with the timeline of a monitor, and no two of its intervals start at once.
-/
structure Tidy (s : Store) (monitor : Uuid) : Prop where
  wellFormed : s.WellFormed
  joined : Interval.Joined none (Row.timeline monitor s.rows)
  starts : ((Row.timeline monitor s.rows).map (·.startsAt)).Nodup

/--
What is left of a monitor differs in no more than its ends from the intervals that have not gone, in the timeline and
in the order of their creation, and the other monitors have what they had.
-/
structure Thinned (s : Store) (monitor : Uuid) (gone : List Uuid) (s' : Store) : Prop where
  tidy : s'.Tidy monitor
  timeline : (Row.timeline monitor s'.rows).map Interval.reopened =
    ((Row.timeline monitor s.rows).filter (·.id ∉ gone)).map Interval.reopened
  history : (s'.history monitor).map Interval.reopened =
    ((s.history monitor).filter (·.id ∉ gone)).map Interval.reopened
  others : ∀ M, M ≠ monitor → s'.history M = s.history M

variable {s s' s'' : Store} {monitor id : Uuid} {gone : List Uuid} {t i j : Interval}

theorem one_lt_length_history (hi : i ∈ s.history monitor) (hj : j ∈ s.history monitor) (hne : i.id ≠ j.id) :
    1 < (s.history monitor).length := by
  obtain ⟨n, hn, rfl⟩ := List.mem_iff_getElem.1 hi
  obtain ⟨k, hk, rfl⟩ := List.mem_iff_getElem.1 hj
  have hnk : n ≠ k := by
    intro heq
    subst heq
    exact hne rfl
  omega

/--
No other interval starts with the one that is deleted, so that the timeline stays joined.
-/
theorem Tidy.joined_applyDeletion (h : s.Tidy monitor) (ht : t ∈ s.history monitor)
    (happ : s.applyDeletion (.restitch t (Row.neighbors monitor t.startsAt s.rows)) = (.ok (), s')) :
    Interval.Joined none (Row.timeline monitor s'.rows) := by
  have haudit := (Row.audit_timeline_iff monitor s.rows).2 h.joined
  have halone : ∀ i ∈ Row.timeline monitor s.rows, i.startsAt = t.startsAt → i = t :=
    fun i hi => List.inj_on_of_nodup_map h.starts hi (mem_timeline.2 ht)
  rw [← Row.audit_timeline_iff]
  exact (h.wellFormed.audit_applyDeletion_iff ht haudit happ).2 (.inl halone)

theorem Tidy.applyDeletion (h : s.Tidy monitor) (ht : t ∈ s.history monitor) :
    ∃ s', s.applyDeletion (.restitch t (Row.neighbors monitor t.startsAt s.rows)) = (.ok (), s') ∧
      s.Thinned monitor [t.id] s' := by
  obtain ⟨s', happ, _, _, _, hothers⟩ := h.wellFormed.applyDeletion_restitch ht rfl
  have hw : s'.WellFormed := h.wellFormed.of_applyDeletion happ
  have htimeline : (Row.timeline monitor s'.rows).map Interval.reopened =
      ((Row.timeline monitor s.rows).filter (·.id ∉ [t.id])).map Interval.reopened := by
    rw [h.wellFormed.timeline_applyDeletion happ]
    exact DeletionPlan.map_reopened_applyTo _ _
  have hhistory : (s'.history monitor).map Interval.reopened =
      ((s.history monitor).filter (·.id ∉ [t.id])).map Interval.reopened := by
    rw [history_applyDeletion happ]
    exact DeletionPlan.map_reopened_applyTo _ _
  have hstarts : ((Row.timeline monitor s'.rows).map (·.startsAt)).Nodup := by
    have hmap := congrArg (List.map (·.startsAt)) htimeline
    simp only [List.map_map] at hmap
    exact (congrArg List.Nodup hmap).mpr (h.starts.sublist (List.filter_sublist.map _))
  exact ⟨s', happ, ⟨hw, h.joined_applyDeletion ht happ, hstarts⟩, htimeline, hhistory, hothers⟩

namespace Thinned

theorem start (h : s.Tidy monitor) : s.Thinned monitor [] s :=
  ⟨h, by simp, by simp, fun _ _ => rfl⟩

theorem trans (h : s.Thinned monitor gone s') (h' : s'.Thinned monitor [id] s'') :
    s.Thinned monitor (gone ++ [id]) s'' := by
  refine ⟨h'.tidy, ?_, ?_, fun M hM => (h'.others M hM).trans (h.others M hM)⟩
  . rw [h'.timeline, Interval.map_reopened_filter, h.timeline, ← Interval.map_reopened_filter,
      ← Interval.filter_gone_concat]
  . rw [h'.history, Interval.map_reopened_filter, h.history, ← Interval.map_reopened_filter,
      ← Interval.filter_gone_concat]

/--
An interval that has not gone is still there, up to its end.
-/
theorem remains (h : s.Thinned monitor gone s') (hi : i ∈ s.history monitor) (hid : i.id ∉ gone) :
    ∃ j ∈ s'.history monitor, j.id = i.id := by
  have hmem : i.reopened ∈ (s'.history monitor).map Interval.reopened := by
    rw [h.history]
    exact List.mem_map_of_mem (List.mem_filter.2 ⟨hi, by simpa using hid⟩)
  obtain ⟨j, hj, heq⟩ := List.mem_map.1 hmem
  exact ⟨j, hj, congrArg (·.id) heq⟩

/--
Each of the intervals that are left ends where the next one of them starts.
-/
theorem timeline_eq (h : s.Thinned monitor gone s') :
    Row.timeline monitor s'.rows =
      Interval.linked (·.startsAt) ((Row.timeline monitor s.rows).filter (·.id ∉ gone)) :=
  h.tidy.joined.eq_linked h.timeline

theorem getLast?_statusId (h : s.Thinned monitor gone s') :
    (s'.history monitor).getLast?.map (·.statusId) =
      ((s.history monitor).filter (·.id ∉ gone)).getLast?.map (·.statusId) := by
  have hmap := congrArg (List.map (·.statusId)) h.history
  simp only [List.map_map] at hmap
  rw [← List.getLast?_map, ← List.getLast?_map]
  exact congrArg List.getLast? hmap

end Thinned

/--
The last one of a history that has not gone was created last.
-/
theorem WellFormed.newest (h : s.WellFormed) (hi : i ∈ s.history monitor) (hid : i.id ∉ gone) :
    ∃ newest ∈ s.history monitor, newest.id ∉ gone ∧
      ((s.history monitor).filter (·.id ∉ gone)).getLast? = some newest ∧
      ∀ j ∈ s.history monitor, j.id ∉ gone → j.createdAt ≤ newest.createdAt := by
  have hrecency : (s.history monitor).Pairwise fun i j => i.createdAt < j.createdAt :=
    List.pairwise_map.2 (h.recency monitor)
  have hmem : i ∈ (s.history monitor).filter (·.id ∉ gone) := List.mem_filter.2 ⟨hi, by simpa using hid⟩
  obtain ⟨as, newest, heq⟩ := (List.eq_nil_or_concat _).resolve_left (List.ne_nil_of_mem hmem)
  rw [List.concat_eq_append] at heq
  have hnewest : newest ∈ (s.history monitor).filter (·.id ∉ gone) := by
    rw [heq]
    simp
  rw [List.mem_filter, decide_eq_true_eq] at hnewest
  refine ⟨newest, hnewest.1, hnewest.2, by rw [heq, List.getLast?_concat], ?_⟩
  intro j hj hjid
  have hsorted : (as ++ [newest]).Pairwise fun i j => i.createdAt < j.createdAt :=
    heq ▸ hrecency.sublist List.filter_sublist
  have hjmem : j ∈ as ++ [newest] := heq ▸ List.mem_filter.2 ⟨hj, by simpa using hjid⟩
  rw [List.mem_append, List.mem_singleton] at hjmem
  cases hjmem with
  | inl hjas => exact Int.le_of_lt ((List.pairwise_append.1 hsorted).2.2 j hjas newest (by simp))
  | inr hjlast => rw [hjlast]; exact Int.le_refl _

end Store

end StatusTimeline
