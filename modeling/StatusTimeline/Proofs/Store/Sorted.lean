import Mathlib.Data.List.Nodup
import StatusTimeline.Proofs.Store.Consistent
import StatusTimeline.Proofs.Timeline.Order

/-!
This module contains the timelines of a store, the intervals of one monitor by start: they hold the same intervals
as the histories, the neighbours of an instant are next to it there, and deletions do to them what they do to the
histories. From this follows when a deletion keeps a timeline joined.
-/

namespace StatusTimeline

theorem greatest?_eq_none {α : Type} {le : α → α → Bool} {xs : List α} (h : greatest? le xs = none) : xs = [] := by
  cases xs with
  | nil => rfl
  | cons x xs =>
    rw [greatest?] at h
    split at h
    . cases h
    . split at h <;> cases h

section Greatest

variable {α : Type} {le : α → α → Bool} (trans : ∀ a b c, le a b = true → le b c = true → le a c = true)
  (total : ∀ a b, (le a b || le b a) = true)

include trans total

theorem le_greatest? {xs : List α} {x : α} (h : greatest? le xs = some x) : ∀ y ∈ xs, le y x = true := by
  have hrefl : ∀ a, le a a = true := by
    intro a
    simpa using total a a
  induction xs generalizing x with
  | nil => simp
  | cons y ys ih =>
    rw [greatest?] at h
    split at h
    . next hnone =>
      cases h
      simp [greatest?_eq_none hnone, hrefl]
    . next z hz =>
      intro w hw
      rw [List.mem_cons] at hw
      split at h
      . next hyz =>
        cases h
        cases hw with
        | inl hw => rw [hw]; exact hyz
        | inr hw => exact ih hz w hw
      . next hyz =>
        cases h
        cases hw with
        | inl hw => rw [hw]; exact hrefl y
        | inr hw =>
          have hzy : le z y = true := by simpa [hyz] using total z y
          exact trans w z y (ih hz w hw) hzy

/--
The greatest element is the last one of the sorted list.
-/
theorem greatest?_eq_of_sorted {xs ys : List α}
    (antisymm : ∀ a ∈ xs, ∀ b ∈ xs, le a b = true → le b a = true → a = b)
    (hp : ys.Perm xs) (hs : ys.Pairwise fun a b => le a b = true) : greatest? le xs = ys.getLast? := by
  cases hg : greatest? le xs with
  | none =>
    rw [greatest?_eq_none hg] at hp
    rw [List.perm_nil.1 hp, List.getLast?_nil]
  | some x =>
    have hx := greatest?_mem hg
    have hne : ys ≠ [] := List.ne_nil_of_mem (hp.mem_iff.2 hx)
    obtain ⟨zs, z, rfl⟩ := (List.eq_nil_or_concat ys).resolve_left hne
    rw [List.concat_eq_append] at hp hs ⊢
    rw [List.getLast?_concat]
    have hz : z ∈ xs := hp.mem_iff.1 (by simp)
    have hzx := le_greatest? trans total hg z hz
    have hxz : le x z = true := by
      have hmem := hp.mem_iff.2 hx
      rw [List.mem_append, List.mem_singleton] at hmem
      cases hmem with
      | inl hmem => exact (List.pairwise_append.1 hs).2.2 x hmem z (by simp)
      | inr hmem => simpa [hmem] using total z z
    rw [antisymm x hx z hz hxz hzx]

end Greatest

section MergeSort

variable {α : Type} {le : α → α → Bool} (trans : ∀ a b c, le a b = true → le b c = true → le a c = true)
  (total : ∀ a b, (le a b || le b a) = true)

include trans total

/--
One more element is sorted in behind all that come strictly before it.
-/
theorem mergeSort_cons_eq (a : α) (l : List α) :
    (a :: l).mergeSort le = (l.mergeSort le).filter (fun b => !le a b) ++ a :: (l.mergeSort le).filter (le a) ∧
      l.mergeSort le = (l.mergeSort le).filter (fun b => !le a b) ++ (l.mergeSort le).filter (le a) := by
  obtain ⟨before, after, hcons, hsplit, hbefore⟩ := List.mergeSort_cons trans total a l
  have hsorted := List.pairwise_mergeSort trans total (a :: l)
  rw [hcons, List.pairwise_append, List.pairwise_cons] at hsorted
  have hafter : ∀ b ∈ after, le a b = true := hsorted.2.1.1
  have hfirst : (before ++ after).filter (fun b => !le a b) = before := by
    rw [List.filter_append, List.filter_eq_self.2 hbefore, List.filter_eq_nil_iff.2, List.append_nil]
    simpa using hafter
  have hsecond : (before ++ after).filter (le a) = after := by
    rw [List.filter_append, List.filter_eq_nil_iff.2, List.filter_eq_self.2 hafter, List.nil_append]
    simpa using hbefore
  rw [hsplit, hfirst, hsecond]
  exact ⟨hcons, rfl⟩

theorem mergeSort_filter (p : α → Bool) (l : List α) : (l.filter p).mergeSort le = (l.mergeSort le).filter p := by
  induction l with
  | nil => simp
  | cons a l ih =>
    obtain ⟨hcons, hsplit⟩ := mergeSort_cons_eq trans total a l
    rw [hcons, List.filter_append]
    cases ha : p a with
    | true =>
      rw [List.filter_cons_of_pos ha, List.filter_cons_of_pos ha, (mergeSort_cons_eq trans total a (l.filter p)).1, ih]
      simp only [List.filter_filter, Bool.and_comm]
    | false =>
      have hneg : ¬ p a = true := by simp [ha]
      rw [List.filter_cons_of_neg hneg, List.filter_cons_of_neg hneg, ih, ← List.filter_append, ← hsplit]

end MergeSort

namespace Row

theorem startLe_trans (a b c : Row) (hab : startLe a b = true) (hbc : startLe b c = true) :
    startLe a c = true := by
  simp only [startLe, recencyLe, Instant.lt_def, Instant.slot_inj, Bool.or_eq_true, Bool.and_eq_true,
    decide_eq_true_eq] at *
  omega

theorem startLe_total (a b : Row) : (startLe a b || startLe b a) = true := by
  simp only [startLe, recencyLe, Instant.lt_def, Instant.slot_inj, Bool.or_eq_true, Bool.and_eq_true,
    decide_eq_true_eq] at *
  omega

variable (monitor : Uuid) (rows : List Row)

theorem timeline_filter (p : Interval → Bool) :
    timeline monitor (rows.filter fun r => p r.interval) = (timeline monitor rows).filter p := by
  unfold timeline
  rw [ofMonitor_filter, mergeSort_filter startLe_trans startLe_total, List.filter_map]
  rfl

theorem timeline_pairwise :
    (timeline monitor rows).Pairwise fun i j => Interval.timelineLe i j = true := by
  unfold timeline
  rw [List.pairwise_map]
  apply List.Pairwise.imp _ (List.pairwise_mergeSort startLe_trans startLe_total (ofMonitor monitor rows))
  intro a b hab
  simp only [startLe, recencyLe, Interval.timelineLe_iff, Instant.lt_def, Instant.le_def, Instant.slot_inj,
    Bool.or_eq_true, Bool.and_eq_true, decide_eq_true_eq] at *
  omega

/--
The audit walks a timeline in the order that it already has.
-/
theorem audit_timeline_iff :
    (audit (timeline monitor rows)).violations = [] ↔ Interval.Joined none (timeline monitor rows) := by
  have hsorted : Interval.sorted (timeline monitor rows) = timeline monitor rows :=
    List.mergeSort_of_pairwise (timeline_pairwise monitor rows)
  rw [Interval.audit_violations_iff, hsorted]

theorem timeline_startOrdered : Interval.StartOrdered (timeline monitor rows) :=
  Interval.startOrdered_of_timelineLe (timeline_pairwise monitor rows)

end Row

namespace Store

variable {s s' : Store} {monitor : Uuid}

theorem timeline_perm (s : Store) (monitor : Uuid) :
    (Row.timeline monitor s.rows).Perm (s.history monitor) :=
  (List.mergeSort_perm _ _).map _

theorem mem_timeline {i : Interval} : i ∈ Row.timeline monitor s.rows ↔ i ∈ s.history monitor :=
  (s.timeline_perm monitor).mem_iff

theorem timeline_eq_nil_iff : Row.timeline monitor s.rows = [] ↔ s.history monitor = [] := by
  have hperm := s.timeline_perm monitor
  constructor
  . intro hnil
    rw [hnil] at hperm
    exact List.nil_perm.1 hperm
  . intro hnil
    rw [hnil] at hperm
    exact List.perm_nil.1 hperm

namespace WellFormed

theorem ids_timeline (h : s.WellFormed) (monitor : Uuid) :
    (Row.timeline monitor s.rows).Pairwise fun i j => i.id ≠ j.id := by
  rw [(s.timeline_perm monitor).pairwise_iff Ne.symm]
  exact h.ids_history monitor

theorem createdAt_ne (h : s.WellFormed) (monitor : Uuid) :
    (Row.ofMonitor monitor s.rows).Pairwise fun a b => a.interval.createdAt ≠ b.interval.createdAt := by
  apply List.Pairwise.imp _ (h.recency monitor)
  intro a b hab
  simp only [ne_eq, Instant.lt_def, Instant.slot_inj] at *
  omega

theorem timeline_inOrder (h : s.WellFormed) (monitor : Uuid) :
    Interval.InOrder (Row.timeline monitor s.rows) := by
  have hle := List.pairwise_mergeSort Row.startLe_trans Row.startLe_total (Row.ofMonitor monitor s.rows)
  have hne := ((List.mergeSort_perm _ Row.startLe).pairwise_iff Ne.symm).2 (h.createdAt_ne monitor)
  unfold Interval.InOrder Row.timeline
  rw [List.pairwise_map]
  apply List.Pairwise.imp _ (hle.and hne)
  intro a b ⟨hab, hne⟩
  simp only [Interval.Precedes, Row.startLe, Row.recencyLe, ne_eq, Instant.lt_def, Instant.slot_inj,
    Bool.or_eq_true, Bool.and_eq_true, decide_eq_true_eq] at *
  omega

theorem startLe_antisymm (h : s.WellFormed) (monitor : Uuid) : ∀ a ∈ Row.ofMonitor monitor s.rows,
    ∀ b ∈ Row.ofMonitor monitor s.rows, Row.startLe a b = true → Row.startLe b a = true → a = b := by
  have hnodup : ((Row.ofMonitor monitor s.rows).map (·.interval.createdAt)).Nodup :=
    List.pairwise_map.2 (h.createdAt_ne monitor)
  intro a ha b hb hab hba
  apply List.inj_on_of_nodup_map hnodup ha hb
  simp only [Row.startLe, Row.recencyLe, Instant.lt_def, Instant.slot_inj, Bool.or_eq_true,
    Bool.and_eq_true, decide_eq_true_eq] at *
  omega

theorem neighbors_eq (h : s.WellFormed) (monitor : Uuid) (at_ : Instant) :
    Row.neighbors monitor at_ s.rows =
      { before := ((Row.timeline monitor s.rows).filter (·.startsAt < at_)).getLast?
        after := ((Row.timeline monitor s.rows).filter (at_ < ·.startsAt)).head? } := by
  let rows := (Row.ofMonitor monitor s.rows).mergeSort Row.startLe
  have hperm : rows.Perm (Row.ofMonitor monitor s.rows) := List.mergeSort_perm _ _
  have hle : rows.Pairwise fun a b => Row.startLe a b = true :=
    List.pairwise_mergeSort Row.startLe_trans Row.startLe_total _
  have hanti := h.startLe_antisymm monitor
  have hbefore := greatest?_eq_of_sorted Row.startLe_trans Row.startLe_total
    (fun a ha b hb => hanti a (List.mem_filter.1 ha).1 b (List.mem_filter.1 hb).1)
    (hperm.filter (·.interval.startsAt < at_)) (hle.sublist List.filter_sublist)
  have hafter := @greatest?_eq_of_sorted _ (fun a b => Row.startLe b a)
    (fun a b c hab hbc => Row.startLe_trans c b a hbc hab) (fun a b => Row.startLe_total b a) _ _
    (fun a ha b hb hab hba => hanti a (List.mem_filter.1 ha).1 b (List.mem_filter.1 hb).1 hba hab)
    ((List.reverse_perm _).trans (hperm.filter (at_ < ·.interval.startsAt)))
    (List.pairwise_reverse.2 (hle.sublist List.filter_sublist))
  unfold Row.neighbors
  rw [hbefore, hafter, List.getLast?_reverse, ← List.getLast?_map, ← List.head?_map]
  simp only [Row.timeline, List.filter_map]
  rfl

end WellFormed

theorem history_applyDeletion {plan : DeletionPlan} (happ : s.applyDeletion plan = (.ok (), s')) :
    s'.history monitor = plan.applyTo (s.history monitor) := by
  unfold applyDeletion at happ
  unfold DeletionPlan.applyTo
  split at happ
  . cases happ
  . cases hrepair : plan.repair with
    | none =>
      simp only [hrepair] at happ
      cases happ
      exact history_erase _
    | some repair =>
      simp only [hrepair] at happ
      split at happ
      . cases happ
        rw [history_erase, history_setEnd]
      . cases happ

namespace WellFormed

theorem timeline_applyDeletion (h : s.WellFormed) {plan : DeletionPlan}
    (happ : s.applyDeletion plan = (.ok (), s')) :
    Row.timeline monitor s'.rows = plan.applyTo (Row.timeline monitor s.rows) := by
  have hw : s'.WellFormed := h.of_applyDeletion happ
  apply (hw.timeline_inOrder monitor).eq_of_perm (plan.applyTo_inOrder (h.timeline_inOrder monitor))
  apply (s'.timeline_perm monitor).trans
  rw [history_applyDeletion happ]
  exact plan.applyTo_perm (s.timeline_perm monitor).symm

/--
Deleting an interval keeps a timeline free of violations exactly when no other interval starts with it, or when it
has no length and none starts earlier.
-/
theorem audit_applyDeletion_iff (h : s.WellFormed) {t : Interval} (ht : t ∈ s.history monitor)
    (haudit : (audit (Row.timeline monitor s.rows)).violations = [])
    (happ : s.applyDeletion (.restitch t (Row.neighbors monitor t.startsAt s.rows)) = (.ok (), s')) :
    (audit (Row.timeline monitor s'.rows)).violations = [] ↔
      (∀ i ∈ Row.timeline monitor s.rows, i.startsAt = t.startsAt → i = t) ∨
        (∀ i ∈ Row.timeline monitor s.rows, t.startsAt ≤ i.startsAt) ∧ t.endsAt = some t.startsAt := by
  rw [Row.audit_timeline_iff, h.timeline_applyDeletion happ, h.neighbors_eq]
  have hids := h.ids_timeline monitor
  rw [Row.audit_timeline_iff] at haudit
  obtain ⟨ps, es, fs, qs, heq, hat⟩ := (h.timeline_inOrder monitor).around (mem_timeline.2 ht)
  rw [heq] at hids haudit ⊢
  rw [hat.filter_before, hat.filter_after, hat.joined_restitch_iff hids haudit, hat.alone_iff hids,
    hat.first_iff]

end WellFormed

end Store

end StatusTimeline
