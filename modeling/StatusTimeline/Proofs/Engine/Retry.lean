import StatusTimeline.Proofs.Engine.Failure
import StatusTimeline.Proofs.Engine.Undoing

/-!
This module contains deletions by several calls to the store that were interrupted: a call has failed before the target
was removed. The interval before the target may then have its new end already. A plan looks at starts and at identifiers
only, so that the same plan is made again, and what it sets has been set.
-/

namespace StatusTimeline

namespace Row

/--
Give a row another end if it has an identifier.
-/
def endAt (id : Uuid) (e : Option Instant) (r : Row) : Row := if r.interval.id = id then r.withEnd e else r

variable (id : Uuid) (e : Option Instant)

theorem interval_endAt (r : Row) : (endAt id e r).interval = Interval.endAt id e r.interval := by
  unfold endAt Interval.endAt
  split <;> rfl

theorem startsAt_endAt (r : Row) : (endAt id e r).interval.startsAt = r.interval.startsAt := by
  unfold endAt
  split <;> rfl

theorem startLe_endAt (a b : Row) : startLe (endAt id e a) (endAt id e b) = startLe a b := by
  unfold endAt
  split <;> split <;> rfl

end Row

namespace Store

variable {s : Store} {id : Uuid} {e : Option Instant} {row : Row}

/--
The neighbours of an instant are the same but for the end that was set.
-/
theorem neighbors_setEnd (s : Store) (id : Uuid) (e : Option Instant) (monitor : Uuid) (at_ : Instant) :
    Row.neighbors monitor at_ (s.setEnd id e).rows =
      { before := (Row.neighbors monitor at_ s.rows).before.map (Interval.endAt id e)
        after := (Row.neighbors monitor at_ s.rows).after.map (Interval.endAt id e) } := by
  have hrows : Row.ofMonitor monitor (s.setEnd id e).rows = (Row.ofMonitor monitor s.rows).map (Row.endAt id e) :=
    ofMonitor_setEnd id e
  unfold Row.neighbors
  rw [hrows, List.filter_map, List.filter_map,
    Row.greatest?_interval (Row.interval_endAt id e) (Row.startLe_endAt id e),
    Row.greatest?_interval (Row.interval_endAt id e) fun a b => Row.startLe_endAt id e b a]
  simp only [Function.comp_def, Row.startsAt_endAt]

/--
A plan is the same after an end was set.
-/
theorem restitch_setEnd (s : Store) (id : Uuid) (e : Option Instant) (target : Interval) (at_ : Instant) :
    DeletionPlan.restitch target (Row.neighbors target.monitorId at_ (s.setEnd id e).rows) =
      DeletionPlan.restitch target (Row.neighbors target.monitorId at_ s.rows) := by
  have hstart : ∀ i, (Interval.endAt id e i).startsAt = i.startsAt := by
    intro i
    unfold Interval.endAt
    split <;> rfl
  simp only [DeletionPlan.restitch, neighbors_setEnd, Option.map_map, Function.comp_def, Interval.endAt_id, hstart]

theorem find?_setEnd_of_ne (hne : row.interval.id ≠ id) (hfind : s.find? row.interval.id = some row) :
    (s.setEnd id e).find? row.interval.id = some row := by
  have hsame : ∀ r : Row, (Row.endAt id e r).interval.id = r.interval.id := by
    intro r
    rw [Row.interval_endAt, Interval.endAt_id]
  show (s.rows.map (Row.endAt id e)).find? _ = some row
  rw [List.find?_map]
  simp only [Function.comp_def, hsame]
  have hfind : s.rows.find? (·.interval.id = row.interval.id) = some row := hfind
  rw [hfind, Option.map_some, Row.endAt, if_neg hne]

/--
What a plan sets may have been set before.
-/
theorem applyDeletion_setEnd {plan : DeletionPlan} {repair : EndRepair} (htarget : s.contains plan.target = true)
    (hrepair : plan.repair = some repair) (hfound : s.contains repair.intervalId = true) :
    (s.setEnd repair.intervalId repair.endsAt).applyDeletion plan = s.applyDeletion plan := by
  unfold applyDeletion
  simp [contains_setEnd, hrepair, setEnd_setEnd, htarget, hfound]

/--
The interval to repair starts before the target, so that it is another one.
-/
theorem repair_ne (hids : s.ids.Nodup) (hrow : row ∈ s.rows) {repair : EndRepair}
    (hrepair : (DeletionPlan.restitch row.interval
      (Row.neighbors row.interval.monitorId row.interval.startsAt s.rows)).repair = some repair) :
    row.interval.id ≠ repair.intervalId := by
  obtain ⟨before, hbefore, rfl⟩ := Option.map_eq_some_iff.1 hrepair
  obtain ⟨b, hb, rfl, _⟩ := mem_history.1 (before_mem hbefore)
  intro hid
  have hsame : row = b := List.inj_on_of_nodup_map hids hrow hb hid
  have hlt := before_lt hbefore
  rw [← hsame] at hlt
  exact absurd hlt (Int.lt_irrefl _)

end Store

namespace Memory

/--
The plan for an interval that is stored.
-/
def planFor (m : Memory) (target : Interval) : DeletionPlan :=
  .restitch target (Row.neighbors target.monitorId target.startsAt m.store.rows)

variable {m : Memory} {id : Uuid} {row : Row} {repair : EndRepair} {outcome : DeletionOutcome}

/--
A deletion that would be done comes to the same after its repair was made.
-/
theorem deleteWhole_repaired (hids : m.store.ids.Nodup) (hfind : m.store.find? id = some row)
    (hrepair : (m.planFor row.interval).repair = some repair) (hok : (m.deleteWhole id).1 = .ok outcome) :
    { m with store := m.store.setEnd repair.intervalId repair.endsAt }.deleteWhole id = m.deleteWhole id := by
  obtain ⟨hrow, rfl⟩ := Store.find?_mem hfind
  have hfind' := Store.find?_setEnd_of_ne (e := repair.endsAt) (Store.repair_ne hids hrow hrepair) hfind
  have happ : (m.store.setEnd repair.intervalId repair.endsAt).applyDeletion (m.planFor row.interval) =
      m.store.applyDeletion (m.planFor row.interval) :=
    Store.applyDeletion_setEnd (Store.contains_find? hfind) hrepair (Store.contains_repair hrepair)
  unfold deleteWhole at hok ⊢
  simp only [hfind, hfind', Store.ofMonitor_setEnd, List.length_map] at hok ⊢
  split at hok
  . cases hok
  . next hmany =>
    simp only [hmany, if_false]
    unfold cutOutWhole
    simp only [Store.restitch_setEnd]
    rw [planFor] at happ
    rw [happ]

end Memory

/--
The calls by which a deletion looks its target up and cuts it out.
-/
def Call.isCut : Call → Bool
  | store (.findLatest _) => false
  | store _ => true
  | _ => false

namespace Attempt

/--
What an interrupted deletion makes of a memory, apart from the locks: nothing, or its repair.
-/
inductive Halfway (m : Memory) (id : Uuid) (locks : Slots) : Memory → Prop where
  | untouched : Halfway m id locks { m with locks }
  | repaired (row : Row) (repair : EndRepair) (hfind : m.store.find? id = some row)
      (hrepair : (m.planFor row.interval).repair = some repair) :
    Halfway m id locks { m with store := m.store.setEnd repair.intervalId repair.endsAt, locks }

/--
Of all calls so far only such have failed that cut the target out.
-/
def CutShort (s : Attempt) : Prop := ∀ x ∈ s.calls, x.failed = true → x.call.isCut = true

/--
Where an operation fails as it was cut short, it has come halfway.
-/
def Halts {α : Type} (m : Memory) (id : Uuid) (locks : Slots) (outcome : Except Error α) (s : Attempt) : Prop :=
  ∀ err, outcome = .error err → s.CutShort → Halfway m id locks s.memory

variable {m : Memory} {stamp : Stamp} {faults : Nat → Option Error} {s s' : Attempt} {e : Engine} {id : Uuid}
  {locks : Slots} {row : Row}

theorem Halfway.of_eq {m' : Memory} (h : m' = { m with locks }) : Halfway m id locks m' := by
  rw [h]
  exact .untouched

theorem CutShort.isCut {c : Call} {err : Error} (h : s'.CutShort) (hcalls : s'.calls = s.calls ++ [⟨c, .error err⟩]) :
    c.isCut = true := by
  apply h ⟨c, .error err⟩ _ rfl
  rw [hcalls]
  exact List.mem_append_right _ (List.mem_singleton_self _)

theorem CutShort.of_append {x : Answered} (h : s'.CutShort) (hcalls : s'.calls = s.calls ++ [x]) : s.CutShort := by
  intro y hy
  apply h y
  rw [hcalls]
  exact List.mem_append_left _ hy

/--
A call to the store that is refused changes nothing, and one that is granted changes only the store.
-/
theorem ends_store {c : StoreCall} {Q : Except Error c.Answer → Attempt → Prop}
    (hrefused : ∀ err s', s'.memory = s.memory → s'.calls = s.calls ++ [⟨.store c, .error err⟩] → Q (.error err) s')
    (hgranted : ∀ a store s', s.memory.store.answer stamp c = (.ok a, store) → s'.memory = { s.memory with store } →
      Q (.ok a) s') : Operation.Ends (answer stamp faults) c.perform s Q := by
  unfold Operation.Ends StoreCall.perform
  rw [Operation.execute_call, answer]
  split
  . exact hrefused _ _ rfl rfl
  . cases hanswer : s.memory.store.answer stamp c with
    | mk a store =>
      simp only [Memory.answer, hanswer]
      cases a with
      | ok a => exact hgranted a store _ hanswer rfl
      | error err =>
        have hsame : store = s.memory.store := by
          rcases s.memory.store.intervals_answer stamp c with ⟨_, hok, _⟩ | ⟨_, herr⟩
          . rw [hanswer] at hok
            cases hok
          . rw [hanswer] at herr
            exact congrArg Prod.snd herr
        subst hsame
        exact hrefused err _ rfl rfl

theorem settle (monitor : Uuid) :
    Operation.Ends (answer stamp faults) (Engine.settle monitor) s fun outcome s' =>
      ∀ err, outcome = .error err → ¬ s'.CutShort := by
  unfold Engine.settle
  apply Operation.ends_bind
  apply ends_store
  . intro err s₁ _ hcalls _ _ hcut
    cases hcut.isCut hcalls
  intro latest store s₁ _ _
  cases latest with
  | none => exact Operation.ends_pure nofun
  | some latest =>
    apply Operation.ends_bind
    apply ends_call_told
    . intro err s₂ _ hcalls _ _ hcut
      cases hcut.isCut hcalls
    . intro _ s₂ _
      exact Operation.ends_pure nofun

theorem cutOut_rest {target : Interval} {plan : DeletionPlan} :
    Operation.Ends (answer stamp faults)
      (do
        let pointer ← Engine.settle target.monitorId
        return ({ deleted := target, repair := plan.repair, pointer } : DeletionOutcome)) s (Halts m id locks) := by
  apply Operation.ends_bind
  apply (settle target.monitorId).mono
  intro outcome s' hsettled
  cases outcome with
  | ok pointer => exact Operation.ends_pure nofun
  | error err => exact fun _ _ hcut => absurd hcut (hsettled err rfl)

/--
Whatever a deletion has done before it removes the target, it leaves when that fails.
-/
theorem applyDeletion (he : e.compound = .stepwise) (hs : s.memory = { m with locks })
    (hfind : m.store.find? id = some row) :
    Operation.Ends (answer stamp faults) (e.applyDeletion (m.planFor row.interval)) s (Halts m id locks) := by
  unfold Engine.applyDeletion
  simp only [he]
  unfold Engine.applyDeletionStepwise
  cases hrepair : (m.planFor row.interval).repair with
  | none =>
    apply ends_store
    . intro err s₁ hsame _ _ _ _
      exact .of_eq (hsame.trans hs)
    . exact fun _ _ _ _ _ => nofun
  | some repair =>
    apply Operation.ends_bind
    apply ends_store
    . intro err s₁ hsame _ _ _ _
      exact .of_eq (hsame.trans hs)
    intro _ store s₁ hanswer hs₁
    rw [hs] at hanswer hs₁
    have hfound : m.store.contains repair.intervalId = true := Store.contains_repair hrepair
    simp only [Store.answer, hfound, if_true] at hanswer
    cases hanswer
    apply ends_store
    . intro err s₂ hsame _ _ _ _
      rw [hsame, hs₁]
      exact .repaired row repair hfind hrepair
    . exact fun _ _ _ _ _ => nofun

theorem cutOut (he : e.compound = .stepwise) (hs : s.memory = { m with locks }) (hfind : m.store.find? id = some row) :
    Operation.Ends (answer stamp faults) (e.cutOut row.interval) s (Halts m id locks) := by
  unfold Engine.cutOut
  apply Operation.ends_bind
  apply ends_store
  . intro err s₁ hsame _ _ _ _
    exact .of_eq (hsame.trans hs)
  intro neighbors store s₁ hanswer hs₁
  rw [hs] at hanswer hs₁
  cases hanswer
  apply Operation.ends_bind
  apply Operation.Ends.mono (applyDeletion (m := m) he hs₁ hfind)
  intro outcome s₂ hhalts
  cases outcome with
  | error err => exact fun _ _ hcut => hhalts err rfl hcut
  | ok _ => exact cutOut_rest

theorem cutOutOne (he : e.compound = .stepwise) (hs : s.memory = { m with locks })
    (hfind : m.store.find? id = some row) :
    Operation.Ends (answer stamp faults) (e.cutOutOne row.interval) s (Halts m id locks) := by
  unfold Engine.cutOutOne
  apply Operation.ends_bind
  apply ends_store
  . intro err s₁ hsame _ _ _ _
    exact .of_eq (hsame.trans hs)
  intro count store s₁ hanswer hs₁
  rw [hs] at hanswer hs₁
  cases hanswer
  dsimp only
  split
  . exact Operation.ends_throw fun _ _ _ => .of_eq hs₁
  . exact cutOut he hs₁ hfind

/--
A search for an interval finds one that is stored, or ends with an error and nothing changed.
-/
theorem lookUp (hs : s.memory = { m with locks }) {Q : Except Error Interval → Attempt → Prop}
    (hrefused : ∀ err s', s'.memory = { m with locks } → Q (.error err) s')
    (hfound : ∀ row s', m.store.find? id = some row → s'.memory = { m with locks } → Q (.ok row.interval) s') :
    Operation.Ends (answer stamp faults) (Engine.get id) s Q := by
  unfold Engine.get
  apply Operation.ends_bind
  apply ends_store
  . intro err s₁ hsame _
    exact hrefused err s₁ (hsame.trans hs)
  intro found store s₁ hanswer hs₁
  rw [hs] at hanswer hs₁
  cases hanswer
  cases hfind : m.store.find? id with
  | none => exact Operation.ends_throw (hrefused _ s₁ hs₁)
  | some row => exact Operation.ends_pure (hfound row s₁ hfind hs₁)

theorem deleteLocked (he : e.compound = .stepwise) (hs : s.memory = { m with locks }) :
    Operation.Ends (answer stamp faults) (e.deleteLocked id) s (Halts m id locks) := by
  rw [Engine.deleteLocked_eq]
  apply Operation.ends_bind
  apply lookUp hs
  . exact fun _ _ hs' _ _ _ => .of_eq hs'
  . intro row s' hfind hs'
    obtain ⟨_, rfl⟩ := Store.find?_mem hfind
    exact cutOutOne he hs' hfind

theorem Granted.locked {key : String} {token : Token} (h : Granted stamp s (.lock key) token s') :
    token = { key, hold := .claim 0 (s.memory.locks.enter key).1 } ∧
      s'.memory = { s.memory with locks := (s.memory.locks.enter key).2 } := by
  have hanswer := h.answer
  rw [h.memory]
  simp only [Memory.answer] at hanswer ⊢
  split at hanswer
  . next hgranted =>
    rw [if_pos hgranted]
    exact ⟨(Except.ok.inj hanswer).symm, rfl⟩
  . cases hanswer

/--
The lock is given back unless that is what fails.
-/
theorem released {key : String} {ticket : Nat} {token : Token} (htoken : token = { key, hold := .claim 0 ticket })
    (hcut : (answer stamp faults s (.release token)).2.CutShort) :
    s.CutShort ∧ (answer stamp faults s (.release token)).1 = .ok () ∧
      (answer stamp faults s (.release token)).2.memory =
        { s.memory with locks := s.memory.locks.giveUp key ticket } := by
  have hcalls : (answer stamp faults s (.release token)).2.calls = s.calls ++ [_] := answer_calls (.release token)
  refine ⟨hcut.of_append hcalls, ?_⟩
  subst htoken
  cases hfault : faults s.calls.length with
  | none =>
    unfold answer
    rw [hfault]
    exact ⟨rfl, rfl⟩
  | some err =>
    have hrefused : (answer stamp faults s (.release { key, hold := .claim 0 ticket })).1 = .error err := by
      unfold answer
      rw [hfault]
    rw [hrefused] at hcalls
    cases hcut.isCut hcalls

theorem Halfway.giveUp {m' : Memory} (h : Halfway m id locks m') (key : String) (ticket : Nat) :
    Halfway m id (locks.giveUp key ticket) { m' with locks := m'.locks.giveUp key ticket } := by
  cases h with
  | untouched => exact .untouched
  | repaired row repair hfind hrepair => exact .repaired row repair hfind hrepair

/--
A deletion that was cut short has come halfway, and all claims are then as they were.
-/
theorem delete (he : e.compound = .stepwise) (hlocks : m.locks.Settled) :
    Operation.Ends (answer stamp faults) (e.delete id) { memory := m } fun outcome s' =>
      ∀ err, outcome = .error err → s'.CutShort →
        ∃ locks, locks.Settled ∧ locks.claims = m.locks.claims ∧ Halfway m id locks s'.memory := by
  unfold Engine.delete
  apply Operation.ends_bind
  apply lookUp (m := m) rfl
  . exact fun _ _ hs' _ _ _ => ⟨m.locks, hlocks, rfl, .of_eq hs'⟩
  intro row s' hfind hs'
  unfold Engine.locked
  apply Operation.ends_bind
  apply ends_call_told
  . intro err s₁ _ hcalls _ _ hcut
    cases hcut.isCut hcalls
  intro token s₁ hc₁
  obtain ⟨rfl, hs₁⟩ := hc₁.locked
  rw [hs'] at hs₁
  apply Operation.ends_finish
  apply (deleteLocked he hs₁).mono
  intro outcome s₂ hhalts err houtcome hcut
  obtain ⟨hcut, hreleased, hmemory⟩ := released rfl hcut
  rw [hreleased, Operation.finished_ok] at houtcome
  rw [hmemory]
  rw [hs']
  exact ⟨_, (hlocks.enter _).giveUp _ _, hlocks.claims_giveUp_enter _, (hhalts err houtcome hcut).giveUp _ _⟩

theorem Halfway.deleteWhole {m' : Memory} {outcome : DeletionOutcome} (h : Halfway m id locks m')
    (hids : m.store.ids.Nodup) (hok : (m.deleteWhole id).1 = .ok outcome) :
    m'.deleteWhole id = ((m.deleteWhole id).1, { (m.deleteWhole id).2 with locks }) := by
  cases h with
  | untouched => exact Memory.deleteWhole_locks id locks
  | repaired row repair hfind hrepair =>
    rw [← Memory.deleteWhole_repaired hids hfind hrepair hok]
    exact Memory.deleteWhole_locks (m := { m with store := m.store.setEnd repair.intervalId repair.endsAt }) id locks

/--
The target is still there, and belongs to the same monitor.
-/
theorem Halfway.find? {m' : Memory} (h : Halfway m id locks m') (hids : m.store.ids.Nodup)
    (hfind : m.store.find? id = some row) : m'.store.find? id = some row ∧ m'.locks = locks := by
  cases h with
  | untouched => exact ⟨hfind, rfl⟩
  | repaired row' repair hfind' hrepair =>
    obtain ⟨hrow, rfl⟩ := Store.find?_mem hfind
    cases hfind.symm.trans hfind'
    exact ⟨Store.find?_setEnd_of_ne (Store.repair_ne hids hrow hrepair) hfind, rfl⟩

end Attempt

namespace Memory

/--
A deletion succeeds only while nobody else claims the lock of the monitor.
-/
theorem serve_delete_granted {e : Engine} {m : Memory} {stamp : Stamp} {id : Uuid} {outcome : DeletionOutcome}
    (h : m.locks.Settled) (hok : (serve e m stamp (.delete id)).1 = .ok outcome) :
    ∃ row, m.store.find? id = some row ∧
      (∀ c ∈ m.locks.claims, c.key ≠ Engine.lockKey row.interval.monitorId) ∧
      (m.deleteWhole id).1 = .ok outcome ∧
      (serve e m stamp (.delete id)).2.snapshot = (m.deleteWhole id).2.snapshot := by
  have hserve : serve e m stamp (.delete id) = m.perform stamp (e.delete id) := rfl
  cases hfind : m.store.find? id with
  | none =>
    rw [hserve, Engine.delete, perform_bind, perform_get, hfind] at hok
    cases hok
  | some row =>
    have hfree : ∀ c ∈ m.locks.claims, c.key ≠ Engine.lockKey row.interval.monitorId := by
      apply h.free_of_granted
      apply Classical.byContradiction
      intro hdenied
      have hlocked : (m.perform stamp (Engine.locked row.interval.monitorId (e.deleteLocked id))).1 =
          .error (.lockTimeout (Engine.lockKey row.interval.monitorId) .simulated) := by
        unfold Engine.locked
        rw [perform_bind, perform_call]
        simp only [answer, hdenied, if_false]
      rw [hserve, Engine.delete, perform_bind, perform_get, hfind] at hok
      rw [hlocked] at hok
      cases hok
    obtain ⟨locks, hdone⟩ := serve_delete_free h hfree e stamp hfind rfl
    rw [hdone] at hok ⊢
    exact ⟨row, rfl, hfree, hok, rfl⟩

/--
An engine that deletes by several calls to the store is interrupted: calls by which it looks the target up and cuts it
out have failed, and no others. Run once more without failures, the deletion comes to what it would have come to at
once: it succeeds with the same repair and the same pointer and leaves the same intervals and the same pointers,
provided that it would have succeeded.
-/
theorem deletion_retried (e : Engine) (he : e.compound = .stepwise) (m : Memory) (hids : m.store.ids.Nodup)
    (hlocks : m.locks.Settled) (id : Uuid) (stamp stamp' stamp'' : Stamp) (faults : Nat → Option Error) (err : Error)
    (herr : (m.attempt e stamp faults (.delete id)).1 = .error err)
    (hcut : ∀ x ∈ (m.attempt e stamp faults (.delete id)).2.calls, x.failed = true → x.call.isCut = true)
    (outcome : DeletionOutcome) (hok : (serve e m stamp' (.delete id)).1 = .ok outcome) :
    (serve e (m.attempt e stamp faults (.delete id)).2.memory stamp'' (.delete id)).1 = .ok outcome ∧
      (serve e (m.attempt e stamp faults (.delete id)).2.memory stamp'' (.delete id)).2.snapshot =
        (serve e m stamp' (.delete id)).2.snapshot := by
  obtain ⟨row, hfind, hfree, hwhole, hsnapshot⟩ := serve_delete_granted hlocks hok
  obtain ⟨locks, hsettled, hclaims, hhalfway⟩ := Attempt.delete he hlocks err herr hcut
  obtain ⟨hfind', hlocks'⟩ := hhalfway.find? hids hfind
  have hdone := hhalfway.deleteWhole hids hwhole
  obtain ⟨locks'', hserve⟩ :=
    serve_delete_free (hlocks' ▸ hsettled) (by rw [hlocks', hclaims]; exact hfree) e stamp'' hfind' rfl
  rw [hdone] at hserve
  have hrun : (m.attempt e stamp faults (.delete id)).2.memory =
      (Operation.execute (Attempt.answer stamp faults) (e.delete id) { memory := m }).2.memory := rfl
  rw [hrun, hserve, hsnapshot]
  exact ⟨hwhole, rfl⟩

/--
Call number 6 of a deletion is the one that removes the target. The interval before it ends later already.
-/
theorem deletion_retried_repaired :
    let record (serial : Nat) : Turn :=
      { request := .record { monitorId := some (.ofSerial 1), statusId := some (.ofSerial serial) }
        stamp := { id := .ofSerial serial, now := .ofNanos (1000 * serial) } }
    let m := after {} {} [record 11, record 12, record 13]
    let e : Engine := { compound := .stepwise }
    let stamp : Stamp := { id := .ofSerial 14, now := .ofNanos 14000 }
    let faults : Nat → Option Error := fun n => if n = 6 then some (.database .poolTimedOut) else none
    let halfway := (m.attempt e stamp faults (.delete (.ofSerial 12))).2.memory
    let outcome : DeletionOutcome :=
      { deleted :=
          { id := .ofSerial 12, monitorId := .ofSerial 1, statusId := .ofSerial 12, startsAt := .ofNanos 12000
            endsAt := some (.ofNanos 13000), rootCause := none, createdBy := none, createdAt := .ofNanos 12000 }
        repair := some { intervalId := .ofSerial 11, endsAt := some (.ofNanos 13000) }
        pointer := some { monitorId := .ofSerial 1, statusId := .ofSerial 13 } }
    (m.attempt e stamp faults (.delete (.ofSerial 12))).1 = .error (.database .poolTimedOut) ∧
      halfway.snapshot.intervals.length = 3 ∧ m.snapshot.intervals ≠ halfway.snapshot.intervals ∧
      (serve e halfway stamp (.delete (.ofSerial 12))).1 = .ok outcome ∧
      (serve e halfway stamp (.delete (.ofSerial 12))).2.snapshot =
        (serve e m stamp (.delete (.ofSerial 12))).2.snapshot := by
  intro record m e stamp faults halfway outcome
  have hlocks : m.locks.Settled := (Reached.after {} {} (by decide)).settled
  have herr : (m.attempt e stamp faults (.delete (.ofSerial 12))).1 = .error (.database .poolTimedOut) := by
    decide +kernel
  have hcut : ∀ x ∈ (m.attempt e stamp faults (.delete (.ofSerial 12))).2.calls, x.failed = true →
      x.call.isCut = true := by decide +kernel
  have hok : (serve e m stamp (.delete (.ofSerial 12))).1 = .ok outcome := by decide +kernel
  have hdone := deletion_retried e rfl m (by decide +kernel) hlocks (.ofSerial 12) stamp stamp stamp faults
    (.database .poolTimedOut) herr hcut outcome hok
  exact ⟨herr, by decide +kernel, by decide +kernel, hdone.1, hdone.2⟩

end Memory

end StatusTimeline
