import StatusTimeline.Proofs.Engine.Balance

/-!
This module contains what a successful deletion does to a timeline that has no violations, whatever the starts of its
intervals are. The search for the neighbours passes over intervals that start with the target, and what the plan makes
of those decides whether the timeline stays free of violations.
-/

namespace StatusTimeline

namespace Memory

variable {m : Memory} {id : Uuid}

/--
A deletion that succeeds has applied the plan for the neighbours of what it deleted.
-/
theorem deleteWhole_restitch {outcome : DeletionOutcome} (hok : (m.deleteWhole id).1 = .ok outcome) :
    outcome.deleted ∈ m.store.history outcome.deleted.monitorId ∧
      m.store.applyDeletion (.restitch outcome.deleted
        (Row.neighbors outcome.deleted.monitorId outcome.deleted.startsAt m.store.rows)) =
          (.ok (), (m.deleteWhole id).2.store) := by
  unfold deleteWhole at hok ⊢
  cases hf : m.store.find? id with
  | none =>
    rw [hf] at hok
    cases hok
  | some row =>
    simp only [hf] at hok ⊢
    split at hok
    . cases hok
    . next hmany =>
      rw [if_neg hmany]
      unfold cutOutWhole at hok ⊢
      dsimp only at hok ⊢
      split at hok
      . cases hok
      . next store happ =>
        cases hok
        refine ⟨Store.mem_history.2 ⟨row, (Store.find?_mem hf).1, rfl, rfl⟩, ?_⟩
        simp only [happ]
        cases latestPointer store row.interval.monitorId <;> rfl

namespace Sound

variable {e : Engine} {stamp : Stamp}

theorem serve_delete_restitch (h : m.Sound) (he : e.compound = .whole) {outcome : DeletionOutcome}
    (hok : (Memory.serve e m stamp (.delete id)).1 = .ok outcome) :
    outcome.deleted ∈ m.store.history outcome.deleted.monitorId ∧
      m.store.applyDeletion (.restitch outcome.deleted
        (Row.neighbors outcome.deleted.monitorId outcome.deleted.startsAt m.store.rows)) =
          (.ok (), (Memory.serve e m stamp (.delete id)).2.store) := by
  rw [serve_delete he h.idle] at hok ⊢
  cases hf : m.store.find? id with
  | none =>
    rw [hf] at hok
    cases hok
  | some row =>
    rw [hf] at hok
    exact deleteWhole_restitch hok

end Sound

/--
In every memory that a run of requests reaches from an empty store, a deletion that succeeds keeps a timeline free of
violations exactly when no other interval starts with the one that it deletes, or when that one has no length and is
among the first.
-/
theorem deletion_audit_iff (e : Engine) (he : e.compound = .whole) (directory : Directory) (turns : List Turn)
    (hids : (turns.map (·.stamp.id)).Nodup) (stamp : Stamp) (id : Uuid) (outcome : DeletionOutcome) (m' : Memory)
    (hserve : serve e (after e { directory } turns) stamp (.delete id) = (.ok outcome, m'))
    (haudit : (audit ((after e { directory } turns).timeline outcome.deleted.monitorId)).violations = []) :
    (audit (m'.timeline outcome.deleted.monitorId)).violations = [] ↔
      (∀ i ∈ (after e { directory } turns).timeline outcome.deleted.monitorId,
        i.startsAt = outcome.deleted.startsAt → i = outcome.deleted) ∨
      (∀ i ∈ (after e { directory } turns).timeline outcome.deleted.monitorId,
        outcome.deleted.startsAt ≤ i.startsAt) ∧
          outcome.deleted.endsAt = some outcome.deleted.startsAt := by
  have hm := Sound.after he directory hids
  obtain ⟨hmem, happ⟩ := hm.serve_delete_restitch he (congrArg Prod.fst hserve)
  rw [hserve] at happ
  exact hm.wellFormed.audit_applyDeletion_iff hmem haudit happ

/--
A run that records an interval ahead of the clock, and another one when the clock has come to its start. The first one
is closed where it starts, and the timeline has no violations.
-/
def tied : List Turn :=
  let record (start : Option Instant) : Request :=
    .record { monitorId := some (.ofSerial 1), statusId := some (.ofSerial 2), startsAt := start }
  [{ request := record (some (.ofNanos 5000)), stamp := { id := .ofSerial 11, now := .ofNanos 1000 } },
    { request := record none, stamp := { id := .ofSerial 12, now := .ofNanos 5000 } }]

def tiedFirst : Interval where
  id := .ofSerial 11
  monitorId := .ofSerial 1
  statusId := .ofSerial 2
  startsAt := .ofNanos 5000
  endsAt := some (.ofNanos 5000)
  createdAt := .ofNanos 1000
  rootCause := none
  createdBy := none

def tiedSecond : Interval :=
  { tiedFirst with id := .ofSerial 12, endsAt := none, createdAt := .ofNanos 5000 }

theorem wellFormed_tied : (after {} {} tied).store.WellFormed :=
  (Sound.after rfl {} (by decide +kernel)).wellFormed

theorem timeline_tied : (after {} {} tied).timeline (.ofSerial 1) = [tiedFirst, tiedSecond] := by
  apply (wellFormed_tied.timeline_inOrder (.ofSerial 1)).eq_of_perm (by decide)
  exact Store.timeline_perm _ _

theorem audit_tied : (audit ((after {} {} tied).timeline (.ofSerial 1))).violations = [] := by
  apply (Row.audit_timeline_iff (.ofSerial 1) _).2
  show Interval.Joined none ((after {} {} tied).timeline (.ofSerial 1))
  rw [timeline_tied]
  exact ⟨rfl, rfl, trivial⟩

/--
Deleting the second interval leaves the first one closed.
-/
theorem violated_by_tied_deletion :
    let served := serve {} (after {} {} tied) { id := .ofSerial 13, now := .ofNanos 5000 } (.delete (.ofSerial 12))
    (∀ t ∈ tied, t.request.Writes) ∧ (tied.map (·.stamp.id)).Nodup ∧
      (audit ((after {} {} tied).timeline (.ofSerial 1))).violations = [] ∧
      served.1.toOption.map (fun (outcome : DeletionOutcome) => outcome.deleted.monitorId) = some (.ofSerial 1) ∧
      (audit (served.2.timeline (.ofSerial 1))).violations = [.noOpenInterval] :=
  ⟨by decide, by decide +kernel, audit_tied, by decide +kernel, by decide +kernel⟩

theorem deletion_audit_iff_tied :
    let served := serve {} (after {} {} tied) { id := .ofSerial 13, now := .ofNanos 5000 } (.delete (.ofSerial 11))
    (audit ((after {} {} tied).timeline (.ofSerial 1))).violations = [] ∧
      ((∀ i ∈ (after {} {} tied).timeline (.ofSerial 1), tiedFirst.startsAt ≤ i.startsAt) ∧
        tiedFirst.endsAt = some tiedFirst.startsAt) ∧
      (audit (served.2.timeline (.ofSerial 1))).violations = [] := by
  intro served
  have hserve : served =
      (.ok { deleted := tiedFirst, repair := none
             pointer := some { monitorId := .ofSerial 1, statusId := .ofSerial 2 } }, served.2) := rfl
  have hfirst : (∀ i ∈ (after {} {} tied).timeline (.ofSerial 1), tiedFirst.startsAt ≤ i.startsAt) ∧
      tiedFirst.endsAt = some tiedFirst.startsAt := by
    rw [timeline_tied]
    decide
  refine ⟨audit_tied, hfirst, ?_⟩
  exact (deletion_audit_iff {} rfl {} tied (by decide +kernel) _ _ _ served.2 hserve audit_tied).2 (.inr hfirst)

end Memory

end StatusTimeline
