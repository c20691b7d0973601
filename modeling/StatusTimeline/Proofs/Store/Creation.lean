import Mathlib.Data.List.Induction
import StatusTimeline.Proofs.Store.Sorted
import StatusTimeline.Proofs.Store.Table

/-!
This module contains tables that are filled by one insertion after another, whatever the clock reads at them. A table
takes creation times from the clock as they are, so that they increase exactly as far as its readings do.
-/

namespace StatusTimeline

theorem greatest?_concat_iff {α : Type} {le : α → α → Bool}
    (trans : ∀ a b c, le a b = true → le b c = true → le a c = true) (total : ∀ a b, (le a b || le b a) = true)
    {xs : List α} {x : α} : greatest? le (xs ++ [x]) = some x ↔ ∀ y ∈ xs, le y x = true := by
  constructor
  . intro h y hy
    exact le_greatest? trans total h y (List.mem_append_left _ hy)
  . intro h
    induction xs with
    | nil => rfl
    | cons y ys ih =>
      rw [List.cons_append, greatest?, ih fun z hz => h z (List.mem_cons_of_mem y hz)]
      simp only [h y List.mem_cons_self, if_true]

namespace Row

theorem recencyLe_trans (a b c : Row) (hab : recencyLe a b = true) (hbc : recencyLe b c = true) :
    recencyLe a c = true := by
  simp only [recencyLe, Instant.lt_def, Instant.slot_inj, Bool.or_eq_true, Bool.and_eq_true,
    decide_eq_true_eq] at *
  omega

theorem recencyLe_total (a b : Row) : (recencyLe a b || recencyLe b a) = true := by
  simp only [recencyLe, Instant.lt_def, Instant.slot_inj, Bool.or_eq_true, Bool.and_eq_true,
    decide_eq_true_eq] at *
  omega

end Row

/--
An insertion that was committed: what was at hand for it, and the interval that it has answered with.
-/
structure Insertion where
  stamp : Stamp
  created : Interval

def Insertion.reading (x : Insertion) : Instant := x.stamp.now.onDatabaseClock

namespace Table

/--
The tables that committed insertions make of an empty one.
-/
inductive Fills : List Insertion → Table → Prop where
  | empty : Fills [] {}
  | inserted {done : List Insertion} {t t' : Table} {stamp : Stamp} {new : NewInterval} {created : Interval}
    (h : Fills done t) (hok : t.insert stamp new = (.ok created, t')) :
    Fills (done ++ [⟨stamp, created⟩]) t'
  | appended {done : List Insertion} {t t' : Table} {stamp : Stamp} {new : NewInterval} {close : Option Uuid}
    {created : Interval} (h : Fills done t) (hok : t.append stamp new close = (.ok created, t')) :
    Fills (done ++ [⟨stamp, created⟩]) t'

variable {t t' : Table} {stamp : Stamp} {new : NewInterval} {close : Option Uuid} {created : Interval}

theorem append_of_insert (h : t.insert stamp new = (.ok created, t')) :
    t.append stamp new none = (.ok created, t') := by
  unfold append
  rw [h]

/--
An append adds a row after all others, of which it changes at most ends.
-/
theorem plain_append (h : t.append stamp new close = (.ok created, t')) (hf : t.contains stamp.id = false) :
    ∃ f : Row → Row, (∀ r, (f r).withEnd none = r.withEnd none) ∧
      t'.plain = t.plain.map f ++ [{ seq := t.lastSeq + 1, interval := created }] ∧
      t'.lastSeq = t.lastSeq + 1 := by
  obtain ⟨inserted, hinsert, hclose⟩ := append_ok h
  obtain ⟨hcreated, hseq, hplain⟩ := insert_ok hinsert
  cases close with
  | none =>
    rw [hclose]
    exact ⟨id, fun _ => rfl, by simpa using hplain, hseq⟩
  | some prior =>
    obtain ⟨hcontains, rfl⟩ := hclose
    -- what is closed was there before, so it is not the new interval
    have hne : created.id ≠ prior := by
      intro heq
      rw [hcreated] at heq
      rw [← heq] at hcontains
      exact Bool.false_ne_true (hf.symm.trans hcontains)
    let e := (some created.createdAt).map Instant.cutToMicros
    refine ⟨fun r => if r.interval.id = prior then r.withEnd e else r, ?_, ?_, hseq⟩
    . intro r
      dsimp only
      split <;> rfl
    . rw [plain_setEnd]
      simp only [Store.setEnd, asStore, hplain, List.map_append, List.map_singleton, if_neg hne, e]

/--
The rows are the insertions in their order.
-/
structure Lists (t : Table) (done : List Insertion) : Prop where
  rows : t.plain.map (fun r => (r.interval.id, r.interval.monitorId, r.interval.createdAt)) =
    done.map fun x => (x.stamp.id, x.created.monitorId, x.reading)
  seqs : ∀ r ∈ t.plain, r.seq ≤ t.lastSeq

variable {done : List Insertion} {x : Insertion}

theorem lists_empty : Lists {} [] := ⟨rfl, by simp [plain]⟩

namespace Lists

theorem forall_iff (h : t.Lists done) (P : Uuid × Uuid × Instant → Prop) :
    (∀ r ∈ t.plain, P (r.interval.id, r.interval.monitorId, r.interval.createdAt)) ↔
      ∀ y ∈ done, P (y.stamp.id, y.created.monitorId, y.reading) := by
  rw [← List.forall_mem_map, h.rows, List.forall_mem_map]

theorem contains_eq_false (h : t.Lists done) {id : Uuid} (hid : id ∉ done.map (·.stamp.id)) :
    t.contains id = false := by
  rw [← contains_asStore, Store.contains_eq_false]
  apply (h.forall_iff fun k => k.1 ≠ id).2
  intro y hy heq
  exact hid (List.mem_map.2 ⟨y, hy, heq⟩)

theorem append (h : t.Lists done) (hid : stamp.id ∉ done.map (·.stamp.id))
    (hok : t.append stamp new close = (.ok created, t')) : t'.Lists (done ++ [⟨stamp, created⟩]) := by
  obtain ⟨f, hf, hplain, hseq⟩ := plain_append hok (h.contains_eq_false hid)
  obtain ⟨_, hinsert, _⟩ := append_ok hok
  obtain ⟨hcreated, _, _⟩ := insert_ok hinsert
  constructor
  . rw [hplain, List.map_append, List.map_append, ← h.rows, List.map_map, List.map_singleton,
      List.map_singleton, hcreated]
    congr 1
    apply List.map_congr_left
    intro r _
    have hkept := congrArg (fun r : Row => (r.interval.id, r.interval.monitorId, r.interval.createdAt)) (hf r)
    exact hkept
  . intro r hr
    rw [hseq]
    rw [hplain, List.mem_append, List.mem_singleton, List.mem_map] at hr
    rcases hr with ⟨r, hr, rfl⟩ | rfl
    . have hkept := congrArg Row.seq (hf r)
      exact Nat.le_succ_of_le (hkept ▸ h.seqs r hr)
    . exact Nat.le_refl _

end Lists

namespace Fills

/--
What the last insertion was made to.
-/
theorem last (h : Fills (done ++ [x]) t) :
    ∃ t₀ new close, Fills done t₀ ∧ t₀.append x.stamp new close = (.ok x.created, t) := by
  generalize hall : done ++ [x] = all at h
  cases h with
  | empty => simp at hall
  | inserted h hok =>
    obtain ⟨rfl, hx⟩ := List.append_inj' hall rfl
    cases hx
    exact ⟨_, _, none, h, append_of_insert hok⟩
  | appended h hok =>
    obtain ⟨rfl, hx⟩ := List.append_inj' hall rfl
    cases hx
    exact ⟨_, _, _, h, hok⟩

theorem lists (h : Fills done t) (hids : (done.map (·.stamp.id)).Nodup) : t.Lists done := by
  induction done using List.reverseRecOn generalizing t with
  | nil =>
    generalize hall : ([] : List Insertion) = all at h
    cases h with
    | empty => exact lists_empty
    | inserted => simp at hall
    | appended => simp at hall
  | append_singleton done x ih =>
    obtain ⟨t₀, new, close, h₀, hok⟩ := h.last
    rw [List.map_append, List.nodup_append] at hids
    refine (ih h₀ hids.1).append ?_ hok
    intro hmem
    exact hids.2.2 _ hmem x.stamp.id (by simp) rfl

theorem createdAt_eq (h : Fills done t) : ∀ y ∈ done, y.created.createdAt = y.reading := by
  induction h with
  | empty => simp
  | inserted _ hok ih =>
    rw [List.forall_mem_append, List.forall_mem_singleton, (insert_ok hok).1]
    exact ⟨ih, rfl⟩
  | appended _ hok ih =>
    obtain ⟨_, hinsert, _⟩ := append_ok hok
    rw [List.forall_mem_append, List.forall_mem_singleton, (insert_ok hinsert).1]
    exact ⟨ih, rfl⟩

/--
The row of the last insertion comes after those of the others, which have other identifiers.
-/
theorem last_row (h : Fills (done ++ [x]) t) (hids : ((done ++ [x]).map (·.stamp.id)).Nodup) :
    ∃ t₀ : Table, ∃ f : Row → Row, t₀.Lists done ∧
      t.plain = t₀.plain.map f ++ [{ seq := t₀.lastSeq + 1, interval := x.created }] ∧
      ∀ r ∈ t₀.plain, (f r).withEnd none = r.withEnd none ∧ (f r).interval.id ≠ x.created.id := by
  obtain ⟨t₀, new, close, h₀, hok⟩ := h.last
  rw [List.map_append, List.nodup_append] at hids
  have hlists := h₀.lists hids.1
  have hfresh : t₀.contains x.stamp.id = false := by
    apply hlists.contains_eq_false
    intro hmem
    exact hids.2.2 _ hmem x.stamp.id (by simp) rfl
  obtain ⟨f, hf, hplain, _⟩ := plain_append hok hfresh
  refine ⟨t₀, f, hlists, hplain, ?_⟩
  intro r hr
  obtain ⟨_, hinsert, _⟩ := append_ok hok
  have hid := congrArg (·.interval.id) (hf r)
  refine ⟨hf r, ?_⟩
  rw [show (f r).interval.id = r.interval.id from hid, (insert_ok hinsert).1]
  exact Store.contains_eq_false.1 ((contains_asStore _).trans hfresh) r hr

theorem latest?_last (h : Fills (done ++ [x]) t) (hids : ((done ++ [x]).map (·.stamp.id)).Nodup) :
    Row.latest? x.created.monitorId t.plain = some x.created ↔
      ∀ y ∈ done, y.created.monitorId = x.created.monitorId → y.reading ≤ x.reading := by
  obtain ⟨t₀, f, hlists, hplain, hf⟩ := h.last_row hids
  let last : Row := { seq := t₀.lastSeq + 1, interval := x.created }
  have hof : Row.ofMonitor x.created.monitorId t.plain =
      Row.ofMonitor x.created.monitorId (t₀.plain.map f) ++ [last] := by
    rw [hplain, Row.ofMonitor_append]
    simp [Row.ofMonitor, last]
  have hrow : Row.latest? x.created.monitorId t.plain = some x.created ↔
      greatest? Row.recencyLe (Row.ofMonitor x.created.monitorId t.plain) = some last := by
    unfold Row.latest?
    rw [Option.map_eq_some_iff]
    constructor
    . rintro ⟨r, hr, hinterval⟩
      have hmem := greatest?_mem hr
      rw [hof, List.mem_append, List.mem_singleton, Row.mem_ofMonitor, List.mem_map] at hmem
      rcases hmem with ⟨⟨r₀, hr₀, rfl⟩, _⟩ | rfl
      . exact absurd (congrArg Interval.id hinterval) (hf r₀ hr₀).2
      . exact hr
    . intro hr
      exact ⟨last, hr, rfl⟩
  have hle : ∀ r ∈ t₀.plain,
      Row.recencyLe (f r) last = true ↔ r.interval.createdAt ≤ x.created.createdAt := by
    intro r hr
    have hcreatedAt := congrArg (·.interval.createdAt) (hf r hr).1
    have hseq := congrArg Row.seq (hf r hr).1
    have hlast := hlists.seqs r hr
    simp only [Row.withEnd] at hcreatedAt hseq
    simp only [Row.recencyLe, hcreatedAt, hseq, last, Instant.lt_def, Instant.le_def, Instant.slot_inj,
      Bool.or_eq_true, Bool.and_eq_true, decide_eq_true_eq]
    omega
  rw [hrow, hof, greatest?_concat_iff Row.recencyLe_trans Row.recencyLe_total,
    ← hlists.forall_iff fun k => k.2.1 = x.created.monitorId → k.2.2 ≤ x.reading,
    ← h.createdAt_eq x (by simp)]
  simp only [Row.mem_ofMonitor, and_imp, List.forall_mem_map]
  apply forall₂_congr
  intro r hr
  have hmonitor : (f r).interval.monitorId = r.interval.monitorId := congrArg (·.interval.monitorId) (hf r hr).1
  rw [hmonitor, hle r hr]

/--
The interval that was inserted last has a later creation time than all others exactly when the clock read a later time
at it. It is found as the latest one of its monitor exactly when the clock has not gone back since another one of the
monitor was inserted.
-/
theorem created_last_iff (h : Fills (done ++ [x]) t) (hids : ((done ++ [x]).map (·.stamp.id)).Nodup) :
    ((∀ y ∈ done, y.created.createdAt < x.created.createdAt) ↔ ∀ y ∈ done, y.reading < x.reading) ∧
    (Row.latest? x.created.monitorId t.plain = some x.created ↔
      ∀ y ∈ done, y.created.monitorId = x.created.monitorId → y.reading ≤ x.reading) := by
  refine ⟨?_, h.latest?_last hids⟩
  apply forall₂_congr
  intro y hy
  rw [h.createdAt_eq y (by simp [hy]), h.createdAt_eq x (by simp)]

end Fills

def changed : NewInterval where
  monitorId := .ofSerial 1
  statusId := .ofSerial 2
  startsAt := none
  rootCause := none
  createdBy := none

def changedAt (serial : Nat) (nanos : Int) : Insertion :=
  let stamp : Stamp := { id := .ofSerial serial, now := .ofNanos nanos }
  { stamp, created := changed.materialise stamp.id stamp.now.onDatabaseClock }

theorem fills_changedAt (a b : Nat) (m n : Int) : ∃ t, Fills [changedAt a m, changedAt b n] t ∧
    t.plain = [{ seq := 1, interval := (changedAt a m).created }, { seq := 2, interval := (changedAt b n).created }] := by
  obtain ⟨t, hok, hplain⟩ : ∃ t, Table.append {} (changedAt a m).stamp changed none = (.ok (changedAt a m).created, t) ∧
      t.lastSeq = 1 ∧ t.plain = [{ seq := 1, interval := (changedAt a m).created }] := ⟨_, rfl, rfl, rfl⟩
  obtain ⟨t', hok', hplain'⟩ : ∃ t', t.append (changedAt b n).stamp changed none = (.ok (changedAt b n).created, t') ∧
      t'.plain = t.plain ++ [{ seq := t.lastSeq + 1, interval := (changedAt b n).created }] :=
    ⟨_, rfl, by simp [plain]; rfl⟩
  refine ⟨t', .appended (.appended .empty hok) hok', ?_⟩
  rw [hplain', hplain.1, hplain.2]
  rfl

/--
Two intervals of one monitor, where the clock has gone back before the second one, or has stood still.
-/
theorem created_not_later_steppedBack :
    (∃ t, Fills [changedAt 11 9000000, changedAt 12 5000000] t ∧
      (changedAt 12 5000000).created.createdAt < (changedAt 11 9000000).created.createdAt ∧
      Row.latest? (.ofSerial 1) t.plain = some (changedAt 11 9000000).created) ∧
    (∃ t, Fills [changedAt 11 9000000, changedAt 12 9000400] t ∧
      (changedAt 12 9000400).created.createdAt = (changedAt 11 9000000).created.createdAt) := by
  constructor
  . obtain ⟨t, ht, hplain⟩ := fills_changedAt 11 12 9000000 5000000
    refine ⟨t, ht, by decide +kernel, ?_⟩
    rw [hplain]
    decide +kernel
  . obtain ⟨t, ht, _⟩ := fills_changedAt 11 12 9000000 9000400
    exact ⟨t, ht, by decide +kernel⟩

theorem created_last_iff_steppedBack :
    ([changedAt 11 9000000, changedAt 12 5000000].map (·.stamp.id)).Nodup ∧
      ∃ t, Fills ([changedAt 11 9000000] ++ [changedAt 12 5000000]) t ∧
        Row.latest? (.ofSerial 1) t.plain ≠ some (changedAt 12 5000000).created := by
  have hids : ([changedAt 11 9000000, changedAt 12 5000000].map (·.stamp.id)).Nodup := by decide +kernel
  obtain ⟨t, ht, _⟩ := fills_changedAt 11 12 9000000 5000000
  have ht : Fills ([changedAt 11 9000000] ++ [changedAt 12 5000000]) t := ht
  refine ⟨hids, t, ht, ?_⟩
  intro hlatest
  have hle := (ht.created_last_iff hids).2.1 hlatest (changedAt 11 9000000) List.mem_cons_self rfl
  revert hle
  decide +kernel

end Table

end StatusTimeline
