import Mathlib.Data.List.Nodup
import StatusTimeline.Proofs.Store.Balance
import StatusTimeline.Store.Table

/-!
This module contains tables of intervals seen as stores: a table appends as a store in memory does whose clock is the
database's. While that clock does not go back, the most recently created interval of a monitor is the last one that was
inserted.
-/

namespace StatusTimeline

namespace Instant

theorem isReadable_not_leap {t : Instant} (h : t.isReadable = true) : t.isLeap = false := by
  unfold isReadable at h
  simp_all

theorem toNanos_mono {s t : Instant} (hs : s.isLeap = false) (ht : t.isLeap = false) (h : s ≤ t) :
    s.toNanos ≤ t.toNanos := by
  rw [isLeap_eq_false] at hs ht
  have h₀ := s.nano_nonneg
  have h₁ := t.nano_nonneg
  have hs' := s.slot_eq
  have ht' := t.slot_eq
  rw [le_def] at h
  unfold toNanos
  omega

theorem onDatabaseClock_mono {s t : Instant} (hs : s.isLeap = false) (ht : t.isLeap = false) (h : s ≤ t) :
    s.onDatabaseClock ≤ t.onDatabaseClock := by
  have := toNanos_mono hs ht h
  simp only [onDatabaseClock, le_def, slot_ofNanos]
  omega

theorem cutToMicros_onDatabaseClock (t : Instant) : t.onDatabaseClock.cutToMicros = t.onDatabaseClock := by
  have hcut : (t.toNanos / 1000 * 1000 - year2000).tdiv 1000 = t.toNanos / 1000 - 946684800000000 := by
    have heq : t.toNanos / 1000 * 1000 - year2000 = (t.toNanos / 1000 - 946684800000000) * 1000 := by
      unfold year2000
      omega
    rw [heq, Int.mul_tdiv_cancel _ (by decide)]
  unfold cutToMicros onDatabaseClock
  rw [toNanos_ofNanos, hcut]
  congr 1
  unfold year2000
  omega

end Instant

namespace Table

def asStore (t : Table) : Store where
  rows := t.plain
  lastSeq := t.lastSeq

variable {t t' : Table} {stamp : Stamp} {new : NewInterval} {close : Option Uuid} {created : Interval}

theorem contains_asStore (id : Uuid) : t.asStore.contains id = t.contains id := rfl

theorem plain_setEnd (now : Instant) (id : Uuid) (e : Option Instant) :
    (t.setEnd now id e).plain = (t.asStore.setEnd id (e.map Instant.cutToMicros)).rows := by
  simp only [plain, setEnd, asStore, Store.setEnd, List.map_map]
  apply List.map_congr_left
  intro r _
  simp only [Function.comp]
  split <;> rfl

theorem insert_ok (h : t.insert stamp new = (.ok created, t')) :
    created = (cutNew new).materialise stamp.id stamp.now.onDatabaseClock ∧
      t'.lastSeq = t.lastSeq + 1 ∧
      t'.plain = t.plain ++ [{ seq := t.lastSeq + 1, interval := created }] := by
  unfold insert at h
  split at h
  . cases h
  . cases h
    exact ⟨rfl, rfl, by simp [plain]⟩

theorem append_error {e : Error} (h : t.append stamp new close = (.error e, t')) : t' = t := by
  unfold append at h
  split at h
  . cases h
    rfl
  . split at h
    . cases h
    . split at h
      . cases h
      . cases h
        rfl

/--
What an append that succeeds makes of a table: it inserts, and then changes an end where it has to close.
-/
theorem append_ok (h : t.append stamp new close = (.ok created, t')) :
    ∃ inserted, t.insert stamp new = (.ok created, inserted) ∧
      match close with
      | none => t' = inserted
      | some prior => t.contains prior = true ∧
          t' = inserted.setEnd stamp.now prior (some created.createdAt) := by
  unfold append at h
  split at h
  . cases h
  . next created' inserted hinsert =>
    refine ⟨inserted, ?_⟩
    cases close with
    | none =>
      cases h
      exact ⟨hinsert, rfl⟩
    | some prior =>
      simp only at h ⊢
      split at h
      . next hcontains =>
        cases h
        exact ⟨hinsert, hcontains, rfl⟩
      . cases h

theorem append_asStore (h : t.append stamp new close = (.ok created, t')) :
    ∃ s', t.asStore.append { stamp with now := stamp.now.onDatabaseClock } (cutNew new) close =
      (.ok created, s') ∧ ∀ monitor, t'.asStore.history monitor = s'.history monitor := by
  obtain ⟨inserted, hinsert, hclose⟩ := append_ok h
  obtain ⟨hcreated, _, hplain⟩ := insert_ok hinsert
  have hstore : t.asStore.insert { stamp with now := stamp.now.onDatabaseClock } (cutNew new) =
      (created, { rows := inserted.plain, lastSeq := t.lastSeq + 1,
                  lastCreatedAt := some stamp.now.onDatabaseClock }) := by
    rw [hplain, hcreated]
    rfl
  cases close with
  | none =>
    rw [hclose]
    simp only [Store.append, hstore]
    exact ⟨_, rfl, fun _ => rfl⟩
  | some prior =>
    obtain ⟨hcontains, rfl⟩ := hclose
    have hend : created.createdAt.cutToMicros = created.createdAt := by
      rw [hcreated]
      exact Instant.cutToMicros_onDatabaseClock _
    simp only [Store.append, contains_asStore, hcontains, if_true, hstore]
    refine ⟨_, rfl, ?_⟩
    intro monitor
    have hrows : (inserted.setEnd stamp.now prior (some created.createdAt)).plain = _ := plain_setEnd ..
    rw [Option.map_some, hend] at hrows
    simp only [Store.history, asStore, hrows]
    rfl

theorem history_append (happ : t.append stamp new close = (.ok created, t')) (hclose : close ≠ some stamp.id) :
    ∃ is, t'.asStore.history new.monitorId = is ++ [created] ∧ created.isOpen = true := by
  obtain ⟨s', happ', hhist⟩ := append_asStore happ
  have hcreated := Store.append_created happ'
  have hid : created.id = stamp.id := by rw [hcreated]; rfl
  have hm : (cutNew new).monitorId = new.monitorId := rfl
  have hadded := Store.history_append happ' new.monitorId
  rw [if_pos hm, Interval.closing_concat (by rw [hid]; exact hclose)] at hadded
  exact ⟨_, (hhist _).trans hadded, by rw [hcreated]; rfl⟩

theorem history_append_of_ne (happ : t.append stamp new close = (.ok created, t')) {M : Uuid}
    (hM : M ≠ new.monitorId) (hclose : ∀ i ∈ t.asStore.history M, close ≠ some i.id) :
    t'.asStore.history M = t.asStore.history M := by
  obtain ⟨s', happ', hhist⟩ := append_asStore happ
  rw [hhist]
  exact Store.history_append_of_ne happ' hM hclose

/--
Identifiers tell the rows apart, and along the rows creation times do not decrease, up to what the clock read, while
the numbers of insertions increase.
-/
structure Tidy (t : Table) (now : Instant) : Prop where
  ids : t.plain.Pairwise fun a b => a.interval.id ≠ b.interval.id
  recency : t.plain.Pairwise fun a b => Row.recencyLe a b = true
  last : ∀ r ∈ t.plain, r.interval.createdAt ≤ now.onDatabaseClock ∧ r.seq ≤ t.lastSeq

namespace Tidy

variable {now now' : Instant}

theorem empty (now : Instant) : Tidy {} now := by
  constructor <;> simp [plain]

theorem later (h : t.Tidy now) (hnow : now.isLeap = false) (hnow' : now'.isLeap = false) (hle : now ≤ now') :
    t.Tidy now' := by
  refine ⟨h.ids, h.recency, ?_⟩
  intro r hr
  have hmono := Instant.onDatabaseClock_mono hnow hnow' hle
  have hlast := h.last r hr
  simp only [Instant.le_def] at *
  omega

theorem insert (h : t.Tidy stamp.now) (hf : t.contains stamp.id = false)
    (hinsert : t.insert stamp new = (.ok created, t')) : t'.Tidy stamp.now := by
  obtain ⟨hcreated, hseq, hplain⟩ := insert_ok hinsert
  have hcreatedAt : created.createdAt = stamp.now.onDatabaseClock := by rw [hcreated]; rfl
  rw [← contains_asStore, Store.contains_eq_false] at hf
  constructor
  . rw [hplain, List.pairwise_append]
    refine ⟨h.ids, by simp, ?_⟩
    intro r hr r' hr'
    rw [List.mem_singleton] at hr'
    rw [hr', hcreated]
    exact hf r hr
  . rw [hplain, List.pairwise_append]
    refine ⟨h.recency, by simp, ?_⟩
    intro r hr r' hr'
    have hlast := h.last r hr
    rw [List.mem_singleton] at hr'
    simp only [hr', Row.recencyLe, hcreatedAt, Instant.lt_def, Instant.le_def, Instant.slot_inj, Bool.or_eq_true,
      Bool.and_eq_true, decide_eq_true_eq] at *
    omega
  . intro r hr
    rw [hplain, List.mem_append, List.mem_singleton] at hr
    rw [hseq]
    cases hr with
    | inl hr =>
      have hlast := h.last r hr
      exact ⟨hlast.1, by omega⟩
    | inr hr =>
      rw [hr, hcreatedAt]
      exact ⟨by simp [Instant.le_def], Nat.le_refl _⟩

theorem setEnd (h : t.Tidy now) (at_ : Instant) (id : Uuid) (e : Option Instant) :
    (t.setEnd at_ id e).Tidy now := by
  constructor
  . rw [plain_setEnd]
    simp only [Store.setEnd, List.pairwise_map]
    apply List.Pairwise.imp _ h.ids
    intro a b hab
    split <;> split <;> exact hab
  . rw [plain_setEnd]
    simp only [Store.setEnd, List.pairwise_map]
    apply List.Pairwise.imp _ h.recency
    intro a b hab
    split <;> split <;> exact hab
  . intro r hr
    rw [plain_setEnd] at hr
    simp only [Store.setEnd, List.mem_map] at hr
    obtain ⟨r, hr, rfl⟩ := hr
    have := h.last r hr
    split <;> exact this

theorem append (h : t.Tidy stamp.now) (hf : t.contains stamp.id = false)
    (happ : t.append stamp new close = (.ok created, t')) : t'.Tidy stamp.now := by
  obtain ⟨inserted, hinsert, hclose⟩ := append_ok happ
  have hinserted := h.insert hf hinsert
  cases close with
  | none =>
    rw [hclose]
    exact hinserted
  | some prior =>
    rw [hclose.2]
    exact hinserted.setEnd _ _ _

theorem eq_of_id (h : t.Tidy now) {a b : Row} (ha : a ∈ t.plain) (hb : b ∈ t.plain)
    (he : a.interval.id = b.interval.id) : a = b := by
  have hnodup : (t.plain.map (·.interval.id)).Nodup := by
    rw [List.Nodup, List.pairwise_map]
    exact h.ids
  exact List.inj_on_of_nodup_map hnodup ha hb he

theorem ids_created (h : t.Tidy now) (hf : t.contains stamp.id = false) (hid : created.id = stamp.id)
    (monitor : Uuid) : (t.asStore.history monitor ++ [created]).Pairwise fun i j => i.id ≠ j.id := by
  rw [← contains_asStore, Store.contains_eq_false] at hf
  rw [List.pairwise_append]
  refine ⟨?_, by simp, ?_⟩
  . unfold Store.history
    rw [List.pairwise_map]
    exact List.Pairwise.sublist List.filter_sublist h.ids
  . intro i hi j hj
    obtain ⟨r, hr, rfl, _⟩ := Store.mem_history.1 hi
    rw [List.mem_singleton] at hj
    rw [hj, hid]
    exact hf r hr

theorem openCount_append (h : t.Tidy now) (hf : t.contains stamp.id = false) {prior : Option Interval}
    (happ : t.append stamp new (prior.map (·.id)) = (.ok created, t'))
    (hprior : ∀ i, prior = some i → i ∈ t.asStore.history new.monitorId) :
    t'.asStore.openCount new.monitorId + (prior.any (·.isOpen)).toNat =
      t.asStore.openCount new.monitorId + 1 := by
  obtain ⟨s', happ', hhist⟩ := append_asStore happ
  have hid : created.id = stamp.id := by rw [Store.append_created happ']; rfl
  have hcount := Store.openCount_append happ' (h.ids_created hf hid _) hprior
  rw [Store.openCount_congr (hhist new.monitorId)]
  exact hcount

theorem latest?_eq (h : t.Tidy now) (monitor : Uuid) :
    Row.latest? monitor t.plain = (t.asStore.history monitor).getLast? :=
  @Store.latest?_eq_getLast? t.asStore h.recency monitor

end Tidy

end Table

end StatusTimeline
