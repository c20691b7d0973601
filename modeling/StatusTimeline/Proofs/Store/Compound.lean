import StatusTimeline.Proofs.Engine.Snapshot
import StatusTimeline.Proofs.Store.Table

/-!
This module contains the two compound operations of interval stores, in memory and in a table: an append and a deletion
by a plan either do all that they are to do or leave the store as it is, and it is told exactly when they fail.
-/

namespace StatusTimeline

namespace Interval

/--
No interval of a list has an identifier.
-/
def Absent (id : Uuid) (is : List Interval) : Prop := ∀ i ∈ is, i.id ≠ id

end Interval

/--
The intervals that have to be there for a plan: the one to delete, and the one to repair if there is one.
-/
def DeletionPlan.needs (plan : DeletionPlan) : List Uuid :=
  plan.target :: (plan.repair.map (·.intervalId)).toList

section Whole

variable {σ : Type}

/--
An append to a store whose intervals can be seen. It fails where what is to be stored is refused, or where there is an
interval to close that is not stored; else it adds the new one, which is open, and closes the other one at its creation.
-/
structure AppendsWhole (intervals : σ → List Interval) (refusal : Option Error) (made : Interval) (close : Option Uuid)
    (s : σ) (result : Except Error Interval × σ) : Prop where
  fails_iff : ∀ e, result.1 = .error e ↔ refusal = some e ∨
    refusal = none ∧ ∃ prior, close = some prior ∧ Interval.Absent prior (intervals s) ∧ e = .noInterval prior
  unchanged : ∀ e, result.1 = .error e → result.2 = s
  added : ∀ created, result.1 = .ok created → created = made ∧ created.endsAt = none ∧
    intervals result.2 = Interval.closing close created.createdAt (intervals s) ++ [created]

/--
A deletion by a plan. It fails where an interval is not stored that the plan needs; else it does what the plan says.
-/
structure DeletesWhole (intervals : σ → List Interval) (plan : DeletionPlan) (s : σ) (result : Except Error Unit × σ) :
    Prop where
  fails_iff : (∃ e, result.1 = .error e) ↔ ∃ id ∈ plan.needs, Interval.Absent id (intervals s)
  notFound : ∀ e, result.1 = .error e → ∃ id ∈ plan.needs, Interval.Absent id (intervals s) ∧ e = .noInterval id
  unchanged : ∀ e, result.1 = .error e → result.2 = s
  removed : result.1 = .ok () → intervals result.2 = plan.applyTo (intervals s)

variable {intervals : σ → List Interval} {refusal : Option Error} {made : Interval} {close : Option Uuid}
  {plan : DeletionPlan} {s s' : σ} {e : Error} {id : Uuid}

theorem AppendsWhole.refused : AppendsWhole intervals (some e) made close s (.error e, s) where
  fails_iff := by simp
  unchanged := fun _ _ => rfl
  added := fun _ h => nomatch h

theorem AppendsWhole.missing (h : Interval.Absent id (intervals s)) :
    AppendsWhole intervals none made (some id) s (.error (.noInterval id), s) where
  fails_iff := by
    intro e
    simp only [Except.error.injEq, reduceCtorEq, false_or, true_and, Option.some.injEq, exists_eq_left', h]
    exact eq_comm
  unchanged := fun _ _ => rfl
  added := fun _ h => nomatch h

theorem AppendsWhole.done (hmade : made.endsAt = none) (hclose : ∀ prior ∈ close, ¬ Interval.Absent prior (intervals s))
    (hadded : intervals s' = Interval.closing close made.createdAt (intervals s) ++ [made]) :
    AppendsWhole intervals none made close s (.ok made, s') where
  fails_iff := by
    intro e
    simp only [reduceCtorEq, false_or, true_and, false_iff, not_exists, not_and]
    intro prior hprior habsent
    exact absurd habsent (hclose prior hprior)
  unchanged := fun _ h => nomatch h
  added := by
    intro created h
    cases h
    exact ⟨rfl, hmade, hadded⟩

theorem DeletesWhole.missing (hid : id ∈ plan.needs) (h : Interval.Absent id (intervals s)) :
    DeletesWhole intervals plan s (.error (.noInterval id), s) where
  fails_iff := iff_of_true ⟨_, rfl⟩ ⟨id, hid, h⟩
  notFound := by
    intro e he
    cases he
    exact ⟨id, hid, h, rfl⟩
  unchanged := fun _ _ => rfl
  removed := fun h => nomatch h

theorem DeletesWhole.done (hneeds : ∀ id ∈ plan.needs, ¬ Interval.Absent id (intervals s))
    (hremoved : intervals s' = plan.applyTo (intervals s)) : DeletesWhole intervals plan s (.ok (), s') where
  fails_iff := iff_of_false (fun ⟨_, h⟩ => nomatch h) fun ⟨id, hid, h⟩ => hneeds id hid h
  notFound := fun _ h => nomatch h
  unchanged := fun _ h => nomatch h
  removed := fun _ => hremoved

end Whole

namespace Store

variable {s : Store} {id : Uuid} {stamp : Stamp} {new : NewInterval} {close : Option Uuid} {plan : DeletionPlan}

theorem absent_iff : Interval.Absent id s.intervals ↔ s.contains id = false := by
  rw [contains_eq_false]
  simp [Interval.Absent, intervals]

theorem not_absent_iff : ¬ Interval.Absent id s.intervals ↔ s.contains id = true := by
  rw [absent_iff, Bool.not_eq_false]

theorem append_whole (hf : s.contains stamp.id = false) :
    AppendsWhole intervals none (new.materialise stamp.id (s.nextCreatedAt stamp.now)) close s
      (s.append stamp new close) := by
  cases close with
  | none => exact .done rfl (by simp) (s.intervals_insert stamp new)
  | some prior =>
    cases hc : s.contains prior with
    | false =>
      simp only [append, hc, Bool.false_eq_true, if_false]
      exact .missing (absent_iff.2 hc)
    | true =>
      have hne : some prior ≠ some stamp.id := by
        rintro ⟨⟩
        exact Bool.false_ne_true (hf.symm.trans hc)
      simp only [append, hc, if_true]
      apply AppendsWhole.done rfl
      . intro id hid
        cases hid
        exact not_absent_iff.2 hc
      . rw [intervals_setEnd, intervals_insert, ← Interval.closing_concat hne]
        rfl

theorem applyDeletion_whole : DeletesWhole intervals plan s (s.applyDeletion plan) := by
  unfold applyDeletion
  cases htarget : s.contains plan.target with
  | false => exact .missing List.mem_cons_self (absent_iff.2 htarget)
  | true =>
    cases hrepair : plan.repair with
    | none =>
      apply DeletesWhole.done
      . simpa [DeletionPlan.needs, hrepair] using not_absent_iff.2 htarget
      . simp only [DeletionPlan.applyTo, hrepair]
        exact s.intervals_erase _
    | some repair =>
      cases hc : s.contains repair.intervalId with
      | false =>
        simp only [not_true_eq_false, if_false, Bool.false_eq_true, hc]
        exact .missing (by simp [DeletionPlan.needs, hrepair]) (absent_iff.2 hc)
      | true =>
        simp only [not_true_eq_false, if_false, if_true, hc]
        apply DeletesWhole.done
        . simpa [DeletionPlan.needs, hrepair] using ⟨not_absent_iff.2 htarget, not_absent_iff.2 hc⟩
        . simp only [DeletionPlan.applyTo, hrepair]
          rw [intervals_erase, intervals_setEnd]

end Store

namespace Table

def intervals (t : Table) : List Interval := t.asStore.intervals

/--
Why the database refuses a new interval.
-/
def refusal (new : NewInterval) : Option Error :=
  if new.rootCause.any refusesText then some (.database .nulCharacter) else none

/--
A plan as it is handed to the database, which keeps times in whole microseconds.
-/
def cutPlan (plan : DeletionPlan) : DeletionPlan :=
  { plan with repair := plan.repair.map fun r => { r with endsAt := r.endsAt.map Instant.cutToMicros } }

variable {t : Table} {id : Uuid} {stamp : Stamp} {new : NewInterval} {close : Option Uuid} {plan : DeletionPlan}

theorem absent_iff : Interval.Absent id t.intervals ↔ t.contains id = false := Store.absent_iff

theorem not_absent_iff : ¬ Interval.Absent id t.intervals ↔ t.contains id = true := Store.not_absent_iff

theorem intervals_setEnd (now : Instant) (id : Uuid) (e : Option Instant) :
    (t.setEnd now id e).intervals = t.intervals.map (Interval.endAt id (e.map Instant.cutToMicros)) := by
  rw [intervals, intervals, ← Store.intervals_setEnd, Store.intervals, Store.intervals, ← plain_setEnd]
  rfl

theorem intervals_erase (id : Uuid) : (t.erase id).intervals = t.intervals.filter (·.id ≠ id) := by
  simp only [intervals, Store.intervals, asStore, plain, erase, List.filter_map]
  rfl

theorem contains_setEnd (now : Instant) (id id' : Uuid) (e : Option Instant) :
    (t.setEnd now id e).contains id' = t.contains id' := by
  rw [← contains_asStore, ← contains_asStore, ← Store.contains_setEnd t.asStore id id' (e.map Instant.cutToMicros)]
  simp only [Store.contains, Store.find?, ← plain_setEnd now]
  rfl

theorem append_whole (hf : t.contains stamp.id = false) :
    AppendsWhole intervals (refusal new) ((cutNew new).materialise stamp.id stamp.now.onDatabaseClock) close t
      (t.append stamp new close) := by
  cases hrefused : new.rootCause.any refusesText with
  | true =>
    simp only [append, insert, refusal, hrefused, if_true]
    exact .refused
  | false =>
    simp only [append, insert, refusal, hrefused, Bool.false_eq_true, if_false]
    cases close with
    | none =>
      apply AppendsWhole.done rfl (by simp)
      simp [intervals, Store.intervals, asStore, plain, Interval.closing]
    | some prior =>
      cases hc : t.contains prior with
      | false =>
        simp only [hc, Bool.false_eq_true, if_false]
        exact .missing (absent_iff.2 hc)
      | true =>
        have hne : some prior ≠ some stamp.id := by
          rintro ⟨⟩
          exact Bool.false_ne_true (hf.symm.trans hc)
        simp only [hc, if_true]
        apply AppendsWhole.done rfl
        . intro id hid
          cases hid
          exact not_absent_iff.2 hc
        . rw [intervals_setEnd, ← Interval.closing_concat hne]
          simp [intervals, Store.intervals, asStore, plain, Interval.closing, NewInterval.materialise,
            Instant.cutToMicros_onDatabaseClock]

/--
A table looks for the interval to repair first, and repairs it before it looks for the other one.
-/
theorem applyDeletion_whole (now : Instant) :
    DeletesWhole intervals (cutPlan plan) t (t.applyDeletion now plan) := by
  unfold applyDeletion
  cases hrepair : plan.repair with
  | none =>
    cases htarget : t.contains plan.target with
    | false =>
      simp only [htarget, Bool.false_eq_true, if_false]
      exact .missing List.mem_cons_self (absent_iff.2 htarget)
    | true =>
      simp only [htarget, if_true]
      apply DeletesWhole.done
      . simpa [DeletionPlan.needs, cutPlan, hrepair] using not_absent_iff.2 htarget
      . simp only [DeletionPlan.applyTo, cutPlan, hrepair, Option.map_none]
        exact t.intervals_erase _
  | some repair =>
    cases hc : t.contains repair.intervalId with
    | false =>
      simp only [hc, Bool.false_eq_true, if_false]
      exact .missing (by simp [DeletionPlan.needs, cutPlan, hrepair]) (absent_iff.2 hc)
    | true =>
      simp only [hc, if_true, contains_setEnd]
      cases htarget : t.contains plan.target with
      | false =>
        simp only [Bool.false_eq_true, if_false]
        exact .missing List.mem_cons_self (absent_iff.2 htarget)
      | true =>
        simp only [if_true]
        apply DeletesWhole.done
        . simpa [DeletionPlan.needs, cutPlan, hrepair] using ⟨not_absent_iff.2 htarget, not_absent_iff.2 hc⟩
        . simp only [DeletionPlan.applyTo, cutPlan, hrepair, Option.map_some]
          rw [intervals_erase, intervals_setEnd]

end Table

/--
The compound operations of both kinds of stores are whole. They fail only where an interval is missing, and in a table
also where its texts cannot hold the root cause.
-/
theorem compound_whole (s : Store) (t : Table) (stamp : Stamp) (hs : s.contains stamp.id = false)
    (ht : t.contains stamp.id = false) (new : NewInterval) (close : Option Uuid) (plan : DeletionPlan) :
    AppendsWhole Store.intervals none (new.materialise stamp.id (s.nextCreatedAt stamp.now)) close s
        (s.append stamp new close) ∧
      DeletesWhole Store.intervals plan s (s.applyDeletion plan) ∧
      AppendsWhole Table.intervals (Table.refusal new)
        ((Table.cutNew new).materialise stamp.id stamp.now.onDatabaseClock) close t (t.append stamp new close) ∧
      DeletesWhole Table.intervals (Table.cutPlan plan) t (t.applyDeletion stamp.now plan) :=
  ⟨Store.append_whole hs, Store.applyDeletion_whole, Table.append_whole ht, Table.applyDeletion_whole stamp.now⟩

namespace Compound

/--
A store and a table that hold one interval, which is open.
-/
def stored : Store where
  rows := [{
    seq := 1
    interval := {
      id := .ofSerial 11
      monitorId := .ofSerial 1
      statusId := .ofSerial 2
      startsAt := .ofNanos 1000
      endsAt := none
      createdAt := .ofNanos 1000
      rootCause := none
      createdBy := none } }]
  lastSeq := 1
  lastCreatedAt := some (.ofNanos 1000)

def storedTable : Table where
  rows := stored.rows.map fun r => { r with updatedAt := .ofNanos 1000 }
  lastSeq := 1

/--
A new interval whose root cause holds a NUL character.
-/
def garbled : NewInterval where
  monitorId := .ofSerial 1
  statusId := .ofSerial 3
  startsAt := none
  rootCause := some "a\x00b"
  createdBy := none

def clocked : Stamp where
  id := .ofSerial 12
  now := .ofNanos 5000

/--
The interval that is there is closed at the creation of the new one, and a plan that is to repair one that is not there
fails in both.
-/
theorem compound_whole_stored :
    let plan : DeletionPlan := { target := .ofSerial 11, repair := some { intervalId := .ofSerial 13, endsAt := none } }
    let appended := stored.append clocked garbled (some (.ofSerial 11))
    stored.contains clocked.id = false ∧ storedTable.contains clocked.id = false ∧
      appended.2.intervals.map (·.endsAt) = [some (.ofNanos 5000), none] ∧
      (∃ e, (stored.applyDeletion plan).1 = .error e) ∧ (stored.applyDeletion plan).2 = stored ∧
      (∃ e, (storedTable.applyDeletion clocked.now plan).1 = .error e) := by
  intro plan appended
  obtain ⟨happend, hdelete, _, hdelete'⟩ :=
    compound_whole stored storedTable clocked (by decide) (by decide) garbled (some (.ofSerial 11)) plan
  have habsent : Interval.Absent (.ofSerial 13) stored.intervals := Store.absent_iff.2 (by decide)
  have hadded := (happend.added _ rfl).2.2
  refine ⟨by decide, by decide, by rw [hadded]; decide, hdelete.fails_iff.2 ⟨.ofSerial 13, by decide, habsent⟩,
    hdelete.unchanged _ rfl, hdelete'.fails_iff.2 ⟨.ofSerial 13, by decide, Table.absent_iff.2 (by decide)⟩⟩

/--
A table refuses the root cause although there is nothing to close.
-/
theorem append_garbled :
    (Table.append {} clocked garbled none).1 = .error (.database .nulCharacter) ∧
      ¬ ((∃ e, (Table.append {} clocked garbled none).1 = .error e) ↔
        ∃ prior, (none : Option Uuid) = some prior ∧ Interval.Absent prior (Table.intervals {})) := by
  have hfails : (Table.append {} clocked garbled none).1 = .error (.database .nulCharacter) := rfl
  refine ⟨hfails, ?_⟩
  intro hiff
  obtain ⟨prior, hprior, _⟩ := hiff.1 ⟨_, hfails⟩
  cases hprior

end Compound

end StatusTimeline
