import StatusTimeline.Proofs.Store.Table

/-!
This module contains the agreement of the two kinds of stores. A table that holds the rows of a store in memory answers
as that store does, and goes on to hold its rows, as long as it is given nothing that it refuses or does not keep
exactly, and its clock is ahead of the creation times that were given.
-/

namespace StatusTimeline

namespace Instant

/--
Whether the database keeps an instant exactly: it is a whole number of microseconds, in no leap second.
-/
def OnMicros (t : Instant) : Prop := t.isLeap = false ∧ t.toNanos % 1000 = 0

instance (t : Instant) : Decidable t.OnMicros := by
  unfold OnMicros
  infer_instance

namespace OnMicros

variable {t : Instant}

theorem onDatabaseClock (h : t.OnMicros) : t.onDatabaseClock = t := by
  have heq : t.toNanos / 1000 * 1000 = t.toNanos := by
    have := h.2
    omega
  rw [Instant.onDatabaseClock, heq, ofNanos_toNanos h.1]

theorem cutToMicros (h : t.OnMicros) : t.cutToMicros = t := by
  rw [← h.onDatabaseClock, cutToMicros_onDatabaseClock]

theorem map_cutToMicros {e : Option Instant} (h : ∀ t ∈ e, t.OnMicros) : e.map Instant.cutToMicros = e := by
  cases e with
  | none => rfl
  | some t => rw [Option.map_some, (h t rfl).cutToMicros]

end OnMicros

end Instant

/--
Whether the database takes what an interval is made of, and keeps it exactly.
-/
structure NewInterval.Kept (new : NewInterval) : Prop where
  startsAt : ∀ t ∈ new.startsAt, t.OnMicros
  rootCause : new.rootCause.any Table.refusesText = false

theorem NewInterval.Kept.cutNew {new : NewInterval} (h : new.Kept) : Table.cutNew new = new := by
  simp only [Table.cutNew, Instant.OnMicros.map_cutToMicros h.startsAt]

namespace Store

/--
Whether a reading of the clock is one that the database keeps exactly, and later than the last creation time.
-/
structure Ticks (s : Store) (now : Instant) : Prop where
  micros : now.OnMicros
  later : ∀ last ∈ s.lastCreatedAt, last < now

theorem Ticks.nextCreatedAt {s : Store} {now : Instant} (h : s.Ticks now) : s.nextCreatedAt now = now := by
  unfold Store.nextCreatedAt
  cases hlast : s.lastCreatedAt with
  | none => rfl
  | some last =>
    have hlt := h.later last (by simp [hlast])
    simp only [Instant.le_def, Instant.lt_def] at *
    rw [if_neg (by omega)]

end Store

/--
What has to hold of a call for the two kinds of stores to answer alike.
-/
def StoreCall.Exact (s : Store) (now : Instant) : StoreCall → Prop
  | findNeighbors _ at_ => at_.OnMicros
  | insert new => new.Kept ∧ s.Ticks now
  | updateEndsAt _ e => ∀ t ∈ e, t.OnMicros
  | purge cutoff => cutoff.OnMicros
  | append new _ => new.Kept ∧ s.Ticks now
  | applyDeletion plan =>
    s.contains plan.target = true ∧ ∀ repair ∈ plan.repair, ∀ t ∈ repair.endsAt, t.OnMicros
  | _ => True

namespace Table

/--
A table holds the rows of a store in memory.
-/
structure Mirrors (t : Table) (s : Store) : Prop where
  rows : t.plain = s.rows
  lastSeq : t.lastSeq = s.lastSeq

theorem mirrors_empty : Mirrors {} {} := ⟨rfl, rfl⟩

namespace Mirrors

variable {t : Table} {s : Store} {stamp : Stamp} {new : NewInterval}

theorem contains (h : t.Mirrors s) (id : Uuid) : t.contains id = s.contains id := by
  rw [Table.contains, Store.contains, Store.find?, h.rows]

theorem setEnd (h : t.Mirrors s) (now : Instant) (id : Uuid) {e : Option Instant} (he : ∀ t ∈ e, t.OnMicros) :
    (t.setEnd now id e).Mirrors (s.setEnd id e) := by
  refine ⟨?_, h.lastSeq⟩
  rw [plain_setEnd, Instant.OnMicros.map_cutToMicros he]
  simp only [Store.setEnd, asStore, h.rows]

theorem filter (h : t.Mirrors s) (p : Row → Bool) :
    Mirrors { t with rows := t.rows.filter fun r => p r.toRow } { s with rows := s.rows.filter p } := by
  refine ⟨?_, h.lastSeq⟩
  rw [← h.rows]
  simp only [plain, List.filter_map]
  rfl

theorem erase (h : t.Mirrors s) (id : Uuid) : (t.erase id).Mirrors (s.erase id) :=
  h.filter fun r => r.interval.id ≠ id

theorem insert (h : t.Mirrors s) (hnew : new.Kept) (hnow : s.Ticks stamp.now) :
    ∃ t', t.insert stamp new = (.ok (s.insert stamp new).1, t') ∧ t'.Mirrors (s.insert stamp new).2 := by
  unfold Table.insert Store.insert
  rw [hnew.rootCause, hnew.cutNew, hnow.nextCreatedAt, hnow.micros.onDatabaseClock, h.lastSeq]
  refine ⟨_, rfl, ?_, rfl⟩
  rw [← h.rows]
  simp [plain]

theorem append (h : t.Mirrors s) (hnew : new.Kept) (hnow : s.Ticks stamp.now) (close : Option Uuid) :
    ∃ t', t.append stamp new close = ((s.append stamp new close).1, t') ∧
      t'.Mirrors (s.append stamp new close).2 := by
  obtain ⟨t', hinsert, h'⟩ := h.insert hnew hnow
  unfold Table.append
  rw [hinsert]
  cases close with
  | none => exact ⟨t', rfl, h'⟩
  | some prior =>
    dsimp only
    rw [h.contains]
    unfold Store.append
    dsimp only
    split
    . refine ⟨_, rfl, h'.setEnd stamp.now prior ?_⟩
      have hcreated : (s.insert stamp new).1.createdAt = stamp.now := hnow.nextCreatedAt
      simpa [hcreated] using hnow.micros
    . exact ⟨t, rfl, h⟩

theorem applyDeletion (h : t.Mirrors s) (now : Instant) {plan : DeletionPlan}
    (htarget : s.contains plan.target = true) (hends : ∀ repair ∈ plan.repair, ∀ t ∈ repair.endsAt, t.OnMicros) :
    ∃ t', t.applyDeletion now plan = ((s.applyDeletion plan).1, t') ∧ t'.Mirrors (s.applyDeletion plan).2 := by
  unfold Table.applyDeletion Store.applyDeletion
  cases hrepair : plan.repair with
  | none =>
    simp only [h.contains, htarget, not_true_eq_false, if_true, if_false]
    exact ⟨_, rfl, h.erase _⟩
  | some repair =>
    have hset := h.setEnd now repair.intervalId (hends repair hrepair)
    simp only [h.contains, htarget, not_true_eq_false, if_false]
    cases s.contains repair.intervalId with
    | false => exact ⟨t, rfl, h⟩
    | true =>
      simp only [if_true, hset.contains, Store.contains_setEnd, htarget]
      exact ⟨_, rfl, hset.erase _⟩

theorem purge (h : t.Mirrors s) {cutoff : Instant} (hcutoff : cutoff.OnMicros) :
    (t.purge cutoff).1 = (s.purge cutoff).1 ∧ (t.purge cutoff).2.Mirrors (s.purge cutoff).2 := by
  have hkept := h.filter fun r => !r.endedBefore cutoff
  have hall := congrArg List.length h.rows
  have hleft := congrArg List.length hkept.rows
  rw [plain, List.length_map] at hall hleft
  unfold Table.purge Store.purge
  rw [hcutoff.cutToMicros]
  refine ⟨?_, hkept⟩
  dsimp only at hleft ⊢
  rw [hall, hleft]

/--
A table that mirrors a store answers as the store does, and goes on to mirror it.
-/
theorem answer (h : t.Mirrors s) {now : Instant} {c : StoreCall} (hc : c.Exact s stamp.now)
    (hnow : c.draws = true → now = stamp.now) :
    ∃ t', t.answer { stamp with now } c = ((s.answer stamp c).1, t') ∧ t'.Mirrors (s.answer stamp c).2 := by
  cases c with
  | insert new =>
    obtain rfl := hnow rfl
    exact h.insert hc.1 hc.2
  | append new close =>
    obtain rfl := hnow rfl
    exact h.append hc.1 hc.2 close
  | updateEndsAt id e =>
    simp only [Table.answer, Store.answer, h.contains]
    split
    . exact ⟨_, rfl, h.setEnd now id hc⟩
    . exact ⟨t, rfl, h⟩
  | delete id =>
    simp only [Table.answer, Store.answer, h.contains]
    split
    . exact ⟨_, rfl, h.erase id⟩
    . exact ⟨t, rfl, h⟩
  | purge cutoff =>
    obtain ⟨hcount, h'⟩ := h.purge hc
    exact ⟨_, by simp only [Table.answer, Store.answer, hcount], h'⟩
  | applyDeletion plan => exact h.applyDeletion now hc.1 hc.2
  | findById id => exact ⟨t, by simp only [Table.answer, Store.answer, Store.find?, h.rows], h⟩
  | findLatest monitor => exact ⟨t, by simp only [Table.answer, Store.answer, h.rows], h⟩
  | findNeighbors monitor at_ =>
    exact ⟨t, by simp only [Table.answer, Store.answer, h.rows, Instant.OnMicros.cutToMicros hc], h⟩
  | count monitor => exact ⟨t, by simp only [Table.answer, Store.answer, h.rows], h⟩
  | list monitor => exact ⟨t, by simp only [Table.answer, Store.answer, h.rows], h⟩

end Mirrors

end Table

end StatusTimeline
