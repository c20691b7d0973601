import StatusTimeline.Memory
import StatusTimeline.Proofs.Store.Balance
import StatusTimeline.Proofs.Timeline.Order

/-!
This module contains what is to be seen of the state of an engine from outside, its intervals and its status pointers,
and the change that a call makes there when it is answered.
-/

namespace StatusTimeline

/--
What a call that is answered makes of the intervals of a store.
-/
def StoreCall.applied : (c : StoreCall) → c.Answer → List Interval → List Interval
  | insert _, created, is => is ++ [created]
  | updateEndsAt id e, _, is => is.map (Interval.endAt id e)
  | delete id, _, is => is.filter (·.id ≠ id)
  | purge cutoff, _, is => is.filter fun i => !i.endedBefore cutoff
  | append _ close, created, is => Interval.closing close created.createdAt (is ++ [created])
  | applyDeletion plan, _, is => plan.applyTo is
  | findById _, _, is => is
  | findLatest _, _, is => is
  | findNeighbors _ _, _, is => is
  | count _, _, is => is
  | list _, _, is => is

namespace Store

def intervals (s : Store) : List Interval := s.rows.map (·.interval)

variable (s : Store)

theorem find?_intervals (id : Uuid) :
    s.intervals.find? (·.id = id) = (s.find? id).map (·.interval) := by
  unfold intervals
  rw [List.find?_map]
  rfl

theorem intervals_insert (stamp : Stamp) (new : NewInterval) :
    (s.insert stamp new).2.intervals = s.intervals ++ [(s.insert stamp new).1] := by
  simp [intervals, insert]

theorem intervals_setEnd (id : Uuid) (e : Option Instant) :
    (s.setEnd id e).intervals = s.intervals.map (Interval.endAt id e) := by
  simp only [intervals, setEnd, List.map_map]
  apply List.map_congr_left
  intro r _
  simp only [Function.comp, Interval.endAt]
  split <;> rfl

theorem intervals_erase (id : Uuid) : (s.erase id).intervals = s.intervals.filter (·.id ≠ id) := by
  simp only [intervals, erase, List.filter_map]
  rfl

theorem intervals_append (stamp : Stamp) (new : NewInterval) (close : Option Uuid) :
    (∃ created, (s.append stamp new close).1 = .ok created ∧
      (s.append stamp new close).2.intervals =
        Interval.closing close created.createdAt (s.intervals ++ [created])) ∨
    ∃ e, s.append stamp new close = (.error e, s) := by
  cases close with
  | none => exact .inl ⟨_, rfl, s.intervals_insert stamp new⟩
  | some prior =>
    unfold append
    dsimp only
    split
    . refine .inl ⟨_, rfl, ?_⟩
      rw [intervals_setEnd, intervals_insert]
      rfl
    . exact .inr ⟨_, rfl⟩

theorem intervals_applyDeletion (plan : DeletionPlan) :
    ((s.applyDeletion plan).1 = .ok () ∧ (s.applyDeletion plan).2.intervals = plan.applyTo s.intervals) ∨
    ∃ e, s.applyDeletion plan = (.error e, s) := by
  unfold applyDeletion
  split
  . exact .inr ⟨_, rfl⟩
  . split
    . next hrepair =>
      refine .inl ⟨rfl, ?_⟩
      simp only [DeletionPlan.applyTo, hrepair]
      exact s.intervals_erase _
    . next repair hrepair =>
      split
      . refine .inl ⟨rfl, ?_⟩
        simp only [DeletionPlan.applyTo, hrepair]
        rw [intervals_erase, intervals_setEnd]
      . exact .inr ⟨_, rfl⟩

/--
A call makes of the intervals what its answer says, and it leaves the store as it is when it fails.
-/
theorem intervals_answer (stamp : Stamp) (c : StoreCall) :
    (∃ a, (s.answer stamp c).1 = .ok a ∧ (s.answer stamp c).2.intervals = c.applied a s.intervals) ∨
    ∃ e, s.answer stamp c = (.error e, s) := by
  cases c with
  | insert new => exact .inl ⟨_, rfl, s.intervals_insert stamp new⟩
  | updateEndsAt id e =>
    unfold answer
    dsimp only
    split
    . exact .inl ⟨(), rfl, s.intervals_setEnd id e⟩
    . exact .inr ⟨_, rfl⟩
  | delete id =>
    unfold answer
    dsimp only
    split
    . exact .inl ⟨(), rfl, s.intervals_erase id⟩
    . exact .inr ⟨_, rfl⟩
  | purge cutoff =>
    refine .inl ⟨_, rfl, ?_⟩
    simp only [answer, purge, intervals, StoreCall.applied, List.filter_map]
    rfl
  | append new close => exact s.intervals_append stamp new close
  | applyDeletion plan =>
    rcases s.intervals_applyDeletion plan with h | h
    . exact .inl ⟨(), h⟩
    . exact .inr h
  | findById id => exact .inl ⟨_, rfl, rfl⟩
  | findLatest monitor => exact .inl ⟨_, rfl, rfl⟩
  | findNeighbors monitor at_ => exact .inl ⟨_, rfl, rfl⟩
  | count monitor => exact .inl ⟨_, rfl, rfl⟩
  | list monitor => exact .inl ⟨_, rfl, rfl⟩

end Store

@[ext]
structure Snapshot where
  intervals : List Interval
  pointers : Uuid → Option Uuid

namespace Snapshot

def stored (v : Snapshot) (c : StoreCall) (a : c.Answer) : Snapshot :=
  { v with intervals := c.applied a v.intervals }

def pointed (v : Snapshot) (update : PointerUpdate) : Snapshot :=
  { v with pointers := fun M => if M = update.monitorId then some update.statusId else v.pointers M }

end Snapshot

namespace Memory

def snapshot (m : Memory) : Snapshot where
  intervals := m.store.intervals
  pointers := m.board.current?

theorem snapshot_set (m : Memory) (update : PointerUpdate) :
    ({ m with board := m.board.set update } : Memory).snapshot = m.snapshot.pointed update := by
  ext1
  . rfl
  . funext M
    exact m.board.current?_set update M

end Memory

end StatusTimeline
