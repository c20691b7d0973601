import StatusTimeline.Proofs.Store.Creation
import StatusTimeline.Proofs.Store.Lineage

/-!
This module contains the reads of a store. All of them look at one list for each monitor, its timeline, which depends on
what is stored and not on the order in which the rows are gone through.
-/

namespace StatusTimeline

section Greatest

variable {α : Type} {le : α → α → Bool}

/--
A search for the greatest element does not depend on the order of the elements, if no two of them are equal.
-/
theorem greatest?_perm (trans : ∀ a b c, le a b = true → le b c = true → le a c = true)
    (total : ∀ a b, (le a b || le b a) = true) {xs ys : List α}
    (antisymm : ∀ a ∈ xs, ∀ b ∈ xs, le a b = true → le b a = true → a = b) (hp : ys.Perm xs) :
    greatest? le ys = greatest? le xs := by
  have hsorted := List.pairwise_mergeSort trans total xs
  have hmem : ∀ a ∈ ys, ∀ b ∈ ys, le a b = true → le b a = true → a = b := by
    intro a ha b hb
    exact antisymm a (hp.mem_iff.1 ha) b (hp.mem_iff.1 hb)
  rw [greatest?_eq_of_sorted trans total antisymm (List.mergeSort_perm xs le) hsorted]
  exact greatest?_eq_of_sorted trans total hmem ((List.mergeSort_perm xs le).trans hp.symm) hsorted

end Greatest

theorem getLast?_eq_some_iff_of_pairwise {α : Type} {f : α → Nat} {xs : List α} {x : α}
    (h : xs.Pairwise fun a b => f a < f b) : xs.getLast? = some x ↔ x ∈ xs ∧ ∀ y ∈ xs, f y ≤ f x := by
  rcases List.eq_nil_or_concat xs with rfl | ⟨ys, z, rfl⟩
  . simp
  . rw [List.concat_eq_append] at h ⊢
    rw [List.pairwise_append] at h
    obtain ⟨-, -, hlast⟩ := h
    rw [List.getLast?_concat, Option.some.injEq]
    constructor
    . rintro rfl
      refine ⟨by simp, ?_⟩
      intro y hy
      rw [List.mem_append, List.mem_singleton] at hy
      rcases hy with hy | rfl
      . exact Nat.le_of_lt (hlast y hy z List.mem_cons_self)
      . exact Nat.le_refl _
    . rintro ⟨hx, hle⟩
      rw [List.mem_append, List.mem_singleton] at hx
      rcases hx with hx | hx
      . exact absurd (hle z (by simp)) (Nat.not_le.2 (hlast x hx z List.mem_cons_self))
      . exact hx.symm

namespace Interval

/--
One interval comes before another by start, then by creation, then by the insertion that drew its identifier.
-/
def Before (drawn : List Uuid) (i j : Interval) : Prop :=
  i.startsAt < j.startsAt ∨ i.startsAt = j.startsAt ∧
    (i.createdAt < j.createdAt ∨ i.createdAt = j.createdAt ∧ drawn.idxOf i.id < drawn.idxOf j.id)

theorem Precedes.before {i j : Interval} (h : Precedes i j) (drawn : List Uuid) : Before drawn i j := by
  rcases h with hstart | ⟨hstart, hcreated⟩
  . exact .inl hstart
  . exact .inr ⟨hstart, .inl hcreated⟩

end Interval

theorem Row.ofMonitor_perm {monitor : Uuid} {rows rows' : List Row} (hp : rows.Perm rows') :
    (ofMonitor monitor rows).Perm (ofMonitor monitor rows') :=
  hp.filter _

namespace Store

/--
The stores that calls make of an empty one, with the identifiers that were drawn for insertions, in their order. Each
insertion draws an identifier that is new.
-/
inductive Made : List Uuid → Store → Prop where
  | empty : Made [] {}
  | inserted {drawn : List Uuid} {s : Store} {stamp : Stamp} {c : StoreCall} (h : Made drawn s) (hc : c.draws = true)
      (hfresh : stamp.id ∉ drawn) (hok : (s.answer stamp c).1.isOk = true) :
      Made (drawn ++ [stamp.id]) (s.answer stamp c).2
  | answered {drawn : List Uuid} {s : Store} {stamp : Stamp} {c : StoreCall} (h : Made drawn s)
      (hc : c.draws = true → (s.answer stamp c).1.isOk = false) : Made drawn (s.answer stamp c).2

variable {s : Store} {stamp : Stamp} {c : StoreCall} {drawn : List Uuid} {monitor : Uuid} {rows : List Row}

/--
A call that would insert and fails leaves the store as it is.
-/
theorem answer_of_not_isOk (hc : c.draws = true) (h : (s.answer stamp c).1.isOk = false) :
    (s.answer stamp c).2 = s := by
  cases c with
  | insert new => cases h
  | append new close =>
    cases close with
    | none => cases h
    | some prior =>
      simp only [answer, append] at h ⊢
      split at h
      . cases h
      . next hprior => rw [if_neg hprior]
  | _ => cases hc

theorem ids_answer_of_draws (hc : c.draws = true) : List.Sublist (s.answer stamp c).2.ids (s.ids ++ [stamp.id]) := by
  cases c with
  | insert new => exact (ids_append : List.Sublist (s.append stamp new none).2.ids _)
  | append new close => exact ids_append
  | _ => cases hc

theorem ids_answer_of_not_draws (hc : c.draws = false) : List.Sublist (s.answer stamp c).2.ids s.ids := by
  cases c with
  | insert new => cases hc
  | append new close => cases hc
  | updateEndsAt id e =>
    simp only [answer]
    split
    . rw [ids_setEnd]
    . exact List.Sublist.refl _
  | delete id =>
    simp only [answer]
    split
    . exact ids_erase s id
    . exact List.Sublist.refl _
  | purge cutoff => exact List.Sublist.map _ List.filter_sublist
  | applyDeletion plan => exact ids_applyDeletion
  | _ => exact List.Sublist.refl _

namespace Made

/--
Identifiers are stored in the order in which they were drawn.
-/
structure InTurn (s : Store) (drawn : List Uuid) : Prop where
  wellFormed : s.WellFormed
  nodup : drawn.Nodup
  sublist : s.ids.Sublist drawn

theorem inTurn (h : Made drawn s) : InTurn s drawn := by
  induction h with
  | empty => exact ⟨consistent_empty.wellFormed, List.nodup_nil, List.nil_sublist _⟩
  | @inserted drawn s stamp c h hc hfresh hok ih =>
    constructor
    . apply ih.wellFormed.answer
      intro _
      rw [← Bool.not_eq_true, ← mem_ids]
      exact fun hmem => hfresh (ih.sublist.subset hmem)
    . rw [List.nodup_append]
      refine ⟨ih.nodup, List.nodup_singleton _, ?_⟩
      intro id hid id' hid' heq
      rw [List.mem_singleton.1 hid'] at heq
      exact hfresh (heq ▸ hid)
    . exact (ids_answer_of_draws hc).trans (ih.sublist.append (List.Sublist.refl _))
  | @answered drawn s stamp c h hc ih =>
    cases hdraws : c.draws with
    | true =>
      rw [answer_of_not_isOk hdraws (hc hdraws)]
      exact ih
    | false =>
      exact ⟨ih.wellFormed.answer fun habs => absurd (hdraws.symm.trans habs) (by simp), ih.nodup,
        (ids_answer_of_not_draws hdraws).trans ih.sublist⟩

end Made

namespace WellFormed

variable {monitor : Uuid}

theorem recencyLe_antisymm (h : s.WellFormed) (monitor : Uuid) : ∀ a ∈ Row.ofMonitor monitor s.rows,
    ∀ b ∈ Row.ofMonitor monitor s.rows, Row.recencyLe a b = true → Row.recencyLe b a = true → a = b := by
  intro a ha b hb hab hba
  have hcreated : a.interval.createdAt = b.interval.createdAt := by
    simp only [Row.recencyLe, Instant.lt_def, Instant.slot_inj, Bool.or_eq_true, Bool.and_eq_true,
      decide_eq_true_eq] at *
    omega
  apply List.inj_on_of_nodup_map (List.pairwise_map.2 (h.createdAt_ne monitor)) ha hb hcreated

section Permuted

variable (h : s.WellFormed) (hp : rows.Perm s.rows)

include h hp

theorem latest?_perm (monitor : Uuid) : Row.latest? monitor rows = Row.latest? monitor s.rows := by
  unfold Row.latest?
  rw [greatest?_perm Row.recencyLe_trans Row.recencyLe_total (h.recencyLe_antisymm monitor) (Row.ofMonitor_perm hp)]

theorem neighbors_perm (monitor : Uuid) (at_ : Instant) :
    Row.neighbors monitor at_ rows = Row.neighbors monitor at_ s.rows := by
  have hof : (Row.ofMonitor monitor rows).Perm (Row.ofMonitor monitor s.rows) := Row.ofMonitor_perm hp
  have hanti := h.startLe_antisymm monitor
  unfold Row.neighbors
  congr 2
  . apply greatest?_perm Row.startLe_trans Row.startLe_total _ (hof.filter _)
    intro a ha b hb
    exact hanti a (List.mem_filter.1 ha).1 b (List.mem_filter.1 hb).1
  . apply greatest?_perm (fun a b c hab hbc => Row.startLe_trans c b a hbc hab) (fun a b => Row.startLe_total b a) _
      (hof.filter _)
    intro a ha b hb hab hba
    exact hanti a (List.mem_filter.1 ha).1 b (List.mem_filter.1 hb).1 hba hab

theorem timeline_eq_of_perm (monitor : Uuid) : Row.timeline monitor rows = Row.timeline monitor s.rows := by
  have hof : (Row.ofMonitor monitor rows).Perm (Row.ofMonitor monitor s.rows) := Row.ofMonitor_perm hp
  unfold Row.timeline
  congr 1
  apply List.Perm.eq_of_pairwise _ (List.pairwise_mergeSort Row.startLe_trans Row.startLe_total _)
    (List.pairwise_mergeSort Row.startLe_trans Row.startLe_total _)
    ((List.mergeSort_perm _ _).trans (hof.trans (List.mergeSort_perm _ _).symm))
  intro a b ha hb
  rw [List.mem_mergeSort] at ha hb
  exact h.startLe_antisymm monitor a (hof.mem_iff.1 ha) b hb

theorem find?_perm (id : Uuid) : Row.find? id rows = s.find? id := by
  have hmem : ∀ r, Row.find? id rows = some r → s.find? id = some r := by
    intro r hr
    rw [h.find?_eq_some_iff]
    exact ⟨hp.mem_iff.1 (List.mem_of_find?_eq_some hr), by simpa using List.find?_some hr⟩
  cases hr : Row.find? id rows with
  | some r => exact (hmem r hr).symm
  | none =>
    symm
    unfold Row.find? at hr
    unfold find? Row.find?
    rw [List.find?_eq_none] at hr ⊢
    exact fun r hmem => hr r (hp.mem_iff.2 hmem)

/--
What is read does not depend on the order in which the rows are gone through.
-/
theorem answer_perm (hc : c.isRead = true) : (Store.answer { s with rows } stamp c).1 = (s.answer stamp c).1 := by
  cases c with
  | findById id => exact congrArg (fun found => Except.ok (found.map Row.interval)) (h.find?_perm hp id)
  | findLatest monitor => exact congrArg Except.ok (h.latest?_perm hp monitor)
  | findNeighbors monitor at_ => exact congrArg Except.ok (h.neighbors_perm hp monitor at_)
  | count monitor => exact congrArg Except.ok (Row.ofMonitor_perm hp).length_eq
  | list monitor => exact congrArg Except.ok (h.timeline_eq_of_perm hp monitor)
  | _ => cases hc

end Permuted

end WellFormed

/--
The reads of a store for a monitor are views of one list of intervals.
-/
structure Views (s : Store) (drawn : List Uuid) (monitor : Uuid) (is : List Interval) : Prop where
  list : ∀ stamp, (s.answer stamp (.list monitor)).1 = .ok is
  holds : is.Perm ((s.rows.map (·.interval)).filter (·.monitorId = monitor))
  ids : is.Pairwise fun i j => i.id ≠ j.id
  ordered : is.Pairwise (Interval.Before drawn)
  sorted : is.Pairwise fun i j => i.timelineCompare j ≠ .gt
  count : ∀ stamp, (s.answer stamp (.count monitor)).1 = .ok is.length
  neighbors : ∀ stamp t, (s.answer stamp (.findNeighbors monitor t)).1 = .ok
    { before := (is.filter (·.startsAt < t)).getLast?, after := (is.filter (t < ·.startsAt)).head? }
  latest : ∀ stamp, ∃ latest, (s.answer stamp (.findLatest monitor)).1 = .ok latest ∧
    ∀ i, latest = some i ↔ i ∈ is ∧ ∀ j ∈ is, drawn.idxOf j.id ≤ drawn.idxOf i.id

theorem Views.perm {is : List Interval} (hv : Views s drawn monitor is) (h : s.WellFormed) (hp : rows.Perm s.rows) :
    Views { s with rows } drawn monitor is where
  list := by
    intro stamp
    rw [h.answer_perm hp rfl]
    exact hv.list stamp
  holds := hv.holds.trans ((hp.map _).filter _).symm
  ids := hv.ids
  ordered := hv.ordered
  sorted := hv.sorted
  count := by
    intro stamp
    rw [h.answer_perm hp rfl]
    exact hv.count stamp
  neighbors := by
    intro stamp t
    rw [h.answer_perm hp rfl]
    exact hv.neighbors stamp t
  latest := by
    intro stamp
    rw [h.answer_perm hp rfl]
    exact hv.latest stamp

namespace Made.InTurn

theorem history_inTurn (h : InTurn s drawn) (monitor : Uuid) :
    (s.history monitor).Pairwise fun i j => drawn.idxOf i.id < drawn.idxOf j.id := by
  have hdrawn : drawn.Pairwise fun a b => drawn.idxOf a < drawn.idxOf b := by
    rw [List.pairwise_iff_getElem]
    intro i j hi hj hij
    rw [h.nodup.idxOf_getElem i hi, h.nodup.idxOf_getElem j hj]
    exact hij
  have hids := hdrawn.sublist h.sublist
  unfold ids at hids
  rw [List.pairwise_map] at hids
  unfold history
  rw [List.pairwise_map]
  exact hids.sublist List.filter_sublist

theorem views (h : InTurn s drawn) (monitor : Uuid) : Views s drawn monitor (Row.timeline monitor s.rows) where
  list := fun _ => rfl
  holds := by
    rw [List.filter_map]
    exact s.timeline_perm monitor
  ids := h.wellFormed.ids_timeline monitor
  ordered := (h.wellFormed.timeline_inOrder monitor).imp fun hij => hij.before drawn
  sorted := (Row.timeline_pairwise monitor s.rows).imp fun hij => by simpa [Interval.timelineLe] using hij
  count := by
    intro stamp
    rw [(s.timeline_perm monitor).length_eq, ← length_history]
    rfl
  neighbors := by
    intro stamp t
    rw [← h.wellFormed.neighbors_eq monitor t]
    rfl
  latest := by
    intro stamp
    refine ⟨_, rfl, ?_⟩
    intro i
    rw [h.wellFormed.latest?_eq monitor, getLast?_eq_some_iff_of_pairwise (h.history_inTurn monitor)]
    simp only [mem_timeline]

end Made.InTurn

/--
Whatever calls have made a store, all its reads for a monitor are views of one list, in whatever order the rows are gone
through.
-/
theorem Made.exists_views (h : Made drawn s) (monitor : Uuid) :
    ∃ is, ∀ rows : List Row, rows.Perm s.rows → Views { s with rows } drawn monitor is := by
  refine ⟨Row.timeline monitor s.rows, ?_⟩
  intro rows hp
  exact (h.inTurn.views monitor).perm h.inTurn.wellFormed hp

/--
An interval that starts before one that was there before it, where the clock goes back and another interval is deleted,
read with the rows in the opposite order.
-/
theorem Made.exists_views_backfilled :
    ∃ s, Made [.ofSerial 11, .ofSerial 12, .ofSerial 13] s ∧ ∃ is,
      Views { s with rows := s.rows.reverse } [.ofSerial 11, .ofSerial 12, .ofSerial 13] (.ofSerial 1) is ∧
        is.map (·.id) = [.ofSerial 13, .ofSerial 11] := by
  have hfirst := @Made.inserted _ _ ⟨.ofSerial 11, .ofNanos 9000000000⟩ (.insert Table.changed) .empty rfl
    (by decide +kernel) rfl
  have hsecond := @Made.inserted _ _ ⟨.ofSerial 12, .ofNanos 5000000000⟩
    (.append Table.changed (some (.ofSerial 11))) hfirst rfl (by decide +kernel) (by decide +kernel)
  have hthird := @Made.inserted _ _ ⟨.ofSerial 13, .ofNanos 6000000000⟩
    (.insert { Table.changed with startsAt := some (.ofNanos 2000000000) }) hsecond rfl (by decide +kernel) rfl
  have hdeleted := @Made.answered _ _ default (.delete (.ofSerial 12)) hthird (by simp [StoreCall.draws])
  refine ⟨_, hdeleted, ?_⟩
  obtain ⟨is, hviews⟩ := hdeleted.exists_views (.ofSerial 1)
  have hreversed := hviews _ (List.reverse_perm _)
  refine ⟨is, hreversed, ?_⟩
  have hlist := hreversed.list default
  cases hlist
  unfold Row.timeline
  rw [List.mergeSort_of_pairwise (by decide +kernel)]
  decide +kernel

end Store

end StatusTimeline
