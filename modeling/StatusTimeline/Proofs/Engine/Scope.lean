import StatusTimeline.Proofs.Engine.Locking

/-!
This module contains what the writing operations of an engine change from one call to the next, whichever calls fail:
the intervals and the pointer of one monitor, whose lock they hold meanwhile.
-/

namespace StatusTimeline

variable {σ α β : Type}

namespace Program

/--
Whether each call of an execution leads from a state to the next one as `R` tells.
-/
def Along (answer : Answering σ) (R : σ → σ → Prop) : Program α → σ → Prop
  | done _, _ => True
  | call c next, s => R s (answer s c).2 ∧ (next (answer s c).1).Along answer R (answer s c).2

theorem Along.bind {answer : Answering σ} {R : σ → σ → Prop} {p : Program α} {f : α → Program β} {s : σ}
    (hp : p.Along answer R s) (hf : (f (p.run answer s).1).Along answer R (p.run answer s).2) :
    (p.bind f).Along answer R s := by
  induction p generalizing s with
  | done a => exact hf
  | call c next ih => exact ⟨hp.1, ih _ hp.2 hf⟩

end Program

namespace Operation

variable {answer : Answering σ} {R : σ → σ → Prop} {s : σ} {Q : Except Error α → σ → Prop}

/--
Whether the calls of an operation go from state to state as `R` tells, and its end is as `Q` tells.
-/
def Proceeds (answer : Answering σ) (R : σ → σ → Prop) (x : Operation α) (s : σ) (Q : Except Error α → σ → Prop) : Prop :=
  x.run.Along answer R s ∧ Ends answer x s Q

theorem Proceeds.mono {Q' : Except Error α → σ → Prop} {x : Operation α} (h : Proceeds answer R x s Q)
    (himp : ∀ outcome s', Q outcome s' → Q' outcome s') : Proceeds answer R x s Q' :=
  ⟨h.1, h.2.mono himp⟩

theorem proceeds_pure {a : α} (h : Q (.ok a) s) : Proceeds answer R (pure a) s Q := ⟨trivial, h⟩

theorem proceeds_throw {e : Error} (h : Q (.error e) s) : Proceeds answer R (throw e) s Q := ⟨trivial, h⟩

theorem proceeds_call {c : Call} {Q : Except Error c.Answer → σ → Prop} (hR : R s (answer s c).2)
    (hQ : Ends answer c.perform s Q) : Proceeds answer R c.perform s Q := ⟨⟨hR, trivial⟩, hQ⟩

theorem proceeds_bind {x : Operation β} {f : β → Operation α}
    (h : Proceeds answer R x s fun outcome s' =>
      match outcome with
      | .ok b => Proceeds answer R (f b) s' Q
      | .error e => Q (.error e) s') : Proceeds answer R (x >>= f) s Q := by
  obtain ⟨halong, hends⟩ := h
  constructor
  . apply halong.bind
    unfold Ends execute at hends
    cases hx : x.run.run answer s with
    | mk outcome s' =>
      rw [hx] at hends
      cases outcome with
      | ok b => exact hends.1
      | error e => trivial
  . apply ends_bind
    apply hends.mono
    intro outcome s' h
    cases outcome with
    | ok b => exact h.2
    | error e => exact h

theorem proceeds_tryCatch {x : Operation α} {f : Error → Operation α}
    (h : Proceeds answer R x s fun outcome s' =>
      match outcome with
      | .ok a => Q (.ok a) s'
      | .error e => Proceeds answer R (f e) s' Q) : Proceeds answer R (tryCatch x f) s Q := by
  obtain ⟨halong, hends⟩ := h
  constructor
  . rw [run_tryCatch]
    apply halong.bind
    unfold Ends execute at hends
    cases hx : x.run.run answer s with
    | mk outcome s' =>
      rw [hx] at hends
      cases outcome with
      | ok b => trivial
      | error e => exact hends.1
  . apply ends_tryCatch
    apply hends.mono
    intro outcome s' h
    cases outcome with
    | ok b => exact h
    | error e => exact h.2

theorem proceeds_finish {token : Token} {body : Operation α}
    (h : Proceeds answer R body s fun _ s' => R s' (answer s' (.release token)).2) :
    Proceeds answer R (Engine.finish token body) s fun _ _ => True := by
  refine ⟨?_, trivial⟩
  rw [run_finish]
  exact h.1.bind ⟨h.2, trivial⟩

end Operation

namespace Store

variable {s : Store} {stamp : Stamp} {monitor : Uuid}

theorem belongs_of_ids (h : s.ids.Nodup) {i : Interval} (hi : i ∈ s.history monitor) : s.Belongs i.id monitor := by
  intro r hr hid
  obtain ⟨row, hrow, rfl, hm⟩ := mem_history.1 hi
  rw [List.inj_on_of_nodup_map h hr hrow hid]
  exact hm

/--
Whether a call leaves the intervals of all monitors but one alone.
-/
def Spares (s : Store) (stamp : Stamp) (monitor : Uuid) (c : StoreCall) : Prop :=
  ∀ M, M ≠ monitor → (s.answer stamp c).2.history M = s.history M

theorem spares_of_isRead {c : StoreCall} (h : c.isRead = true) : s.Spares stamp monitor c := by
  intro M _
  rw [StoreCall.answer_of_isRead h]

theorem history_congr {s' : Store} {M : Uuid} (h : Row.ofMonitor M s'.rows = Row.ofMonitor M s.rows) :
    s'.history M = s.history M := by
  unfold history
  rw [h]

theorem spares_insert (new : NewInterval) : s.Spares stamp new.monitorId (.insert new) :=
  fun _ hM => history_congr (ofMonitor_insert_of_ne hM)

theorem spares_updateEndsAt {id : Uuid} (h : s.Belongs id monitor) (endsAt : Option Instant) :
    s.Spares stamp monitor (.updateEndsAt id endsAt) := by
  intro M hM
  simp only [answer]
  split
  . exact history_congr (ofMonitor_setEnd_of_ne h hM endsAt)
  . rfl

theorem spares_delete {id : Uuid} (h : s.Belongs id monitor) : s.Spares stamp monitor (.delete id) := by
  intro M hM
  simp only [answer]
  split
  . exact history_congr (ofMonitor_erase_of_ne h hM)
  . rfl

theorem spares_append {new : NewInterval} {close : Option Uuid}
    (h : ∀ prior, close = some prior → s.Belongs prior new.monitorId ∧ prior ≠ stamp.id) :
    s.Spares stamp new.monitorId (.append new close) :=
  fun _ hM => history_congr (ofMonitor_append_of_ne h hM)

theorem spares_applyDeletion {plan : DeletionPlan} (htarget : s.Belongs plan.target monitor)
    (hrepair : ∀ repair, plan.repair = some repair → s.Belongs repair.intervalId monitor) :
    s.Spares stamp monitor (.applyDeletion plan) :=
  fun _ hM => history_congr (ofMonitor_applyDeletion_of_ne htarget hrepair hM)

/--
An interval that was just inserted under a new identifier is its monitor's.
-/
theorem belongs_inserted (hf : s.contains stamp.id = false) (new : NewInterval) :
    (s.insert stamp new).2.Belongs stamp.id new.monitorId := by
  intro r hr hid
  simp only [insert, List.mem_append, List.mem_singleton] at hr
  rcases hr with hr | rfl
  . exact absurd hid (contains_eq_false.1 hf r hr)
  . rfl

end Store

namespace Attempt

/--
A step changes the intervals or the pointer of a monitor.
-/
def Alters (s s' : Attempt) (M : Uuid) : Prop :=
  s'.memory.store.history M ≠ s.memory.store.history M ∨ s'.memory.board.current? M ≠ s.memory.board.current? M

/--
The lock of a monitor was granted, and none was given back.
-/
structure Holds (s : Attempt) (M : Uuid) : Prop where
  granted : ∃ token, ⟨.lock (Engine.lockKey M), .ok token⟩ ∈ s.calls
  kept : ∀ x ∈ s.calls, x.released? = none

def Guarded (s s' : Attempt) : Prop := ∀ M, s.Alters s' M → s.Holds M

/--
The lock of a monitor is held, and the store is the given one.
-/
structure Secures (monitor : Uuid) (store : Store) (s : Attempt) : Prop where
  holds : s.Holds monitor
  store : s.memory.store = store

variable {stamp : Stamp} {faults : Nat → Option Error} {s s' : Attempt} {monitor : Uuid} {store : Store} {e : Engine}

theorem not_alters (hstore : s'.memory.store = s.memory.store) (hboard : s'.memory.board = s.memory.board) (M : Uuid) :
    ¬ s.Alters s' M := by
  rintro (h | h)
  . exact h (by rw [hstore])
  . exact h (by rw [hboard])

theorem guarded_answer_of_isRead {c : Call} (h : c.isRead = true) : s.Guarded (answer stamp faults s c).2 := by
  intro M hM
  apply absurd hM
  unfold answer
  split
  . exact not_alters rfl rfl M
  . exact not_alters (s.memory.answer_of_isRead stamp h).1 (s.memory.answer_of_isRead stamp h).2 M

theorem Holds.later (h : s.Holds monitor) {x : Answered} (hcalls : s'.calls = s.calls ++ [x])
    (hx : x.released? = none) : s'.Holds monitor := by
  obtain ⟨token, htoken⟩ := h.granted
  constructor
  . rw [hcalls]
    exact ⟨token, List.mem_append_left _ htoken⟩
  . rw [hcalls, List.forall_mem_append, List.forall_mem_singleton]
    exact ⟨h.kept, hx⟩

namespace Secures

variable {Q : Except Error α → Attempt → Prop}

/--
A call of a holder changes nothing but its monitor, and it stays the holder.
-/
theorem call (h : s.Secures monitor store) {c : Call} {Q : Except Error c.Answer → Attempt → Prop}
    (hlocking : c.isLocking = false)
    (hscope : ∀ a s', Granted stamp s c a s' → ∀ M, s.Alters s' M → M = monitor)
    (hrefused : ∀ err s', s'.Secures monitor store → Q (.error err) s')
    (hgranted : ∀ a s', Granted stamp s c a s' → s'.Holds monitor → Q (.ok a) s') :
    Operation.Proceeds (answer stamp faults) Guarded c.perform s Q := by
  apply Operation.proceeds_call
  . have hends : Operation.Ends (answer stamp faults) c.perform s fun _ s' => s.Guarded s' := by
      apply ends_call
      . exact fun err s' hc M hM => absurd hM (not_alters hc.store hc.board M)
      . intro a s' hc M hM
        rw [hscope a s' hc M hM]
        exact h.holds
    exact hends
  . apply ends_call
    . intro err s' hc
      obtain ⟨_, hcalls⟩ := hc.calls
      exact hrefused err s' ⟨h.holds.later hcalls (Answered.released?_of_not_locking hlocking), hc.store.trans h.store⟩
    . intro a s' hc
      exact hgranted a s' hc (h.holds.later hc.calls (Answered.released?_of_not_locking hlocking))

theorem storeCall (h : s.Secures monitor store) {c : StoreCall} {Q : Except Error c.Answer → Attempt → Prop}
    (hspares : store.Spares stamp monitor c)
    (hrefused : ∀ err s', s'.Secures monitor store → Q (.error err) s')
    (hgranted : ∀ a s', (store.answer stamp c).1 = .ok a → s'.Secures monitor (store.answer stamp c).2 → Q (.ok a) s') :
    Operation.Proceeds (answer stamp faults) Guarded c.perform s Q := by
  have hstore : ∀ a s', Granted stamp s (.store c) a s' →
      s'.memory.store = (store.answer stamp c).2 ∧ s'.memory.board = s.memory.board := by
    intro a s' hc
    rw [hc.memory, ← h.store]
    exact ⟨rfl, rfl⟩
  apply h.call rfl _ hrefused
  . intro a s' hc hholds
    refine hgranted a s' ?_ ⟨hholds, (hstore a s' hc).1⟩
    rw [← h.store]
    exact hc.answer
  . intro a s' hc M hM
    apply Classical.byContradiction
    intro hne
    rcases hM with hM | hM
    . apply hM
      rw [(hstore a s' hc).1, hspares M hne, h.store]
    . exact hM (congrArg (·.current? M) (hstore a s' hc).2)

/--
A call that writes, after which the lock is held whatever it was answered.
-/
theorem write (h : s.Secures monitor store) {c : StoreCall} (hspares : store.Spares stamp monitor c) :
    Operation.Proceeds (answer stamp faults) Guarded c.perform s fun _ s' => s'.Holds monitor :=
  h.storeCall hspares (fun _ _ h => h.holds) fun _ _ _ h => h.holds

/--
A call that reads.
-/
theorem read (h : s.Secures monitor store) {c : StoreCall} (hc : c.isRead = true)
    {Q : Except Error c.Answer → Attempt → Prop}
    (hrefused : ∀ err s', s'.Secures monitor store → Q (.error err) s')
    (hgranted : ∀ a s', (store.answer stamp c).1 = .ok a → s'.Secures monitor store → Q (.ok a) s') :
    Operation.Proceeds (answer stamp faults) Guarded c.perform s Q := by
  apply h.storeCall (Store.spares_of_isRead hc) hrefused
  intro a s' ha hs'
  rw [StoreCall.answer_of_isRead hc] at hs'
  exact hgranted a s' ha hs'

theorem setPointer (h : s.Secures monitor store) (status : Uuid) {Q : Except Error Unit → Attempt → Prop}
    (hrefused : ∀ err s', s'.Secures monitor store → Q (.error err) s')
    (hgranted : ∀ s', s'.Holds monitor → Q (.ok ()) s') :
    Operation.Proceeds (answer stamp faults) Guarded (Call.setPointer { monitorId := monitor, statusId := status }).perform
      s Q := by
  apply h.call rfl _ hrefused fun _ s' _ => hgranted s'
  intro a s' hc M hM
  rw [Alters, hc.memory] at hM
  apply Classical.byContradiction
  intro hne
  rcases hM with hM | hM
  . exact hM rfl
  . exact hM ((s.memory.board.current?_set _ M).trans (if_neg hne))

theorem rootCause (h : s.Secures monitor store) (r : ChangeRequest) :
    Operation.Proceeds (answer stamp faults) Guarded (e.rootCause r) s fun outcome s' =>
      (∃ cause, outcome = .ok cause) ∧ s'.Secures monitor store := by
  unfold Engine.rootCause Engine.annotate
  cases r.rootCause with
  | some given => exact Operation.proceeds_pure ⟨⟨_, rfl⟩, h⟩
  | none =>
    cases r.initiatingUser with
    | none => exact Operation.proceeds_pure ⟨⟨_, rfl⟩, h⟩
    | some user =>
      cases e.directory with
      | false => exact Operation.proceeds_pure ⟨⟨_, rfl⟩, h⟩
      | true =>
        apply Operation.proceeds_bind
        apply Operation.proceeds_tryCatch
        apply h.call rfl
        . intro a s' hc M hM
          have hkept := hc.of_isRead rfl
          exact absurd hM (not_alters hkept.1 hkept.2 M)
        . intro err s' hs'
          apply Operation.proceeds_pure
          exact Operation.proceeds_pure ⟨⟨_, rfl⟩, hs'⟩
        . intro answer s' hc hs'
          have hkept := hc.of_isRead rfl
          cases answer <;> exact Operation.proceeds_pure ⟨⟨_, rfl⟩, hs', hkept.1.trans h.store⟩

/--
Both ways of appending keep to the monitor of the new interval.
-/
theorem append {new : NewInterval} (h : s.Secures new.monitorId store) (hfresh : store.contains stamp.id = false)
    {close : Option Uuid} (hclose : ∀ prior, close = some prior → store.Belongs prior new.monitorId ∧ prior ≠ stamp.id) :
    Operation.Proceeds (answer stamp faults) Guarded (e.append new close) s fun _ s' => s'.Holds new.monitorId := by
  unfold Engine.append
  cases e.compound with
  | whole => exact h.write (Store.spares_append hclose)
  | stepwise =>
    unfold Engine.appendStepwise
    apply Operation.proceeds_bind
    apply h.storeCall (Store.spares_insert new) fun _ _ h => h.holds
    intro created s₁ hcreated h₁
    cases close with
    | none => exact Operation.proceeds_pure h₁.holds
    | some prior =>
      obtain ⟨hprior, hne⟩ := hclose prior rfl
      have hid : created.id = stamp.id := by
        rw [← Except.ok.inj hcreated]
        rfl
      apply Operation.proceeds_bind
      apply Operation.proceeds_tryCatch
      apply h₁.storeCall (Store.spares_updateEndsAt (Store.belongs_insert hprior hne) _)
      . intro err s₂ h₂
        apply Operation.proceeds_bind
        apply Operation.proceeds_tryCatch
        rw [hid]
        apply h₂.storeCall (Store.spares_delete (Store.belongs_inserted hfresh new))
        . intro _ s₃ h₃
          apply Operation.proceeds_pure
          exact Operation.proceeds_throw h₃.holds
        . intro _ s₃ _ h₃
          exact Operation.proceeds_throw h₃.holds
      . intro _ s₂ _ h₂
        exact Operation.proceeds_pure h₂.holds

theorem applyDeletion (h : s.Secures monitor store) {plan : DeletionPlan} (htarget : store.Belongs plan.target monitor)
    (hrepair : ∀ repair, plan.repair = some repair → store.Belongs repair.intervalId monitor) :
    Operation.Proceeds (answer stamp faults) Guarded (e.applyDeletion plan) s fun _ s' => s'.Holds monitor := by
  unfold Engine.applyDeletion
  cases e.compound with
  | whole => exact h.write (Store.spares_applyDeletion htarget hrepair)
  | stepwise =>
    unfold Engine.applyDeletionStepwise
    cases hplan : plan.repair with
    | none => exact h.write (Store.spares_delete htarget)
    | some repair =>
      have hbelongs := hrepair repair hplan
      apply Operation.proceeds_bind
      apply h.storeCall (Store.spares_updateEndsAt hbelongs _) fun _ _ h => h.holds
      intro _ s₁ hset h₁
      have htarget₁ : (store.answer stamp (.updateEndsAt repair.intervalId repair.endsAt)).2.Belongs plan.target monitor := by
        simp only [Store.answer]
        split
        . exact Store.belongs_setEnd htarget _
        . exact htarget
      exact h₁.write (Store.spares_delete htarget₁)

theorem settle (h : s.Secures monitor store) :
    Operation.Proceeds (answer stamp faults) Guarded (Engine.settle monitor) s fun _ _ => True := by
  unfold Engine.settle
  apply Operation.proceeds_bind
  apply h.read rfl fun _ _ _ => trivial
  intro latest s₁ _ h₁
  cases latest with
  | none => exact Operation.proceeds_pure trivial
  | some latest =>
    apply Operation.proceeds_bind
    apply h₁.setPointer latest.statusId fun _ _ _ => trivial
    exact fun _ _ => Operation.proceeds_pure trivial

theorem succeed {new : NewInterval} (h : s.Secures new.monitorId store) (hids : store.ids.Nodup)
    (hfresh : store.contains stamp.id = false) :
    Operation.Proceeds (answer stamp faults) Guarded (e.succeed new) s fun _ _ => True := by
  unfold Engine.succeed
  apply Operation.proceeds_bind
  apply h.read rfl fun _ _ _ => trivial
  intro latest s₁ hlatest h₁
  have hclose : ∀ prior, latest.map (·.id) = some prior → store.Belongs prior new.monitorId ∧ prior ≠ stamp.id := by
    intro prior hprior
    obtain ⟨i, rfl, rfl⟩ := Option.map_eq_some_iff.1 hprior
    have hi : i ∈ store.history new.monitorId := Store.latest?_mem (Except.ok.inj hlatest)
    obtain ⟨r, hr, rfl, _⟩ := Store.mem_history.1 hi
    exact ⟨Store.belongs_of_ids hids hi, Store.contains_eq_false.1 hfresh r hr⟩
  apply Operation.proceeds_bind
  apply (h₁.append hfresh hclose).mono
  intro outcome s₂ h₂
  cases outcome with
  | error err => trivial
  | ok interval =>
    apply Operation.proceeds_bind
    apply (Secures.mk h₂ rfl).setPointer interval.statusId fun _ _ _ => trivial
    exact fun _ _ => Operation.proceeds_pure trivial

theorem cutOutOne {target : Interval} (h : s.Secures target.monitorId store) (hids : store.ids.Nodup)
    (htarget : target ∈ store.history target.monitorId) :
    Operation.Proceeds (answer stamp faults) Guarded (e.cutOutOne target) s fun _ _ => True := by
  unfold Engine.cutOutOne
  apply Operation.proceeds_bind
  apply h.read rfl fun _ _ _ => trivial
  intro count s₁ _ h₁
  dsimp only
  split
  . exact Operation.proceeds_throw trivial
  unfold Engine.cutOut
  apply Operation.proceeds_bind
  apply h₁.read rfl fun _ _ _ => trivial
  intro neighbors s₂ hneighbors h₂
  have hrepair : ∀ repair, (DeletionPlan.restitch target neighbors).repair = some repair →
      store.Belongs repair.intervalId target.monitorId := by
    intro repair hrepair
    obtain ⟨before, hbefore, rfl⟩ := Option.map_eq_some_iff.1 hrepair
    rw [← Except.ok.inj hneighbors] at hbefore
    exact Store.belongs_of_ids hids (Store.before_mem hbefore)
  apply Operation.proceeds_bind
  apply (h₂.applyDeletion (Store.belongs_of_ids hids htarget) hrepair).mono
  intro outcome s₃ h₃
  cases outcome with
  | error err => trivial
  | ok _ =>
    apply Operation.proceeds_bind
    apply (Secures.mk h₃ rfl).settle.mono
    intro outcome s₄ _
    cases outcome with
    | error err => trivial
    | ok pointer => exact Operation.proceeds_pure trivial

end Secures

/--
No lock was given back, and the store is the given one.
-/
structure Awaits (store : Store) (s : Attempt) : Prop where
  store : s.memory.store = store
  kept : ∀ x ∈ s.calls, x.released? = none

/--
A search for an interval, whatever `P` tells of the calls before and after it.
-/
theorem proceeds_get (hstore : s.memory.store = store) (id : Uuid) {P : Attempt → Prop}
    {Q : Except Error Interval → Attempt → Prop}
    (hP : ∀ s' x, s'.memory.store = store → s'.calls = s.calls ++ [x] → x.released? = none → P s')
    (hmissing : ∀ err s', Q (.error err) s') (hfound : ∀ row s', store.find? id = some row → P s' → Q (.ok row.interval) s') :
    Operation.Proceeds (answer stamp faults) Guarded (Engine.get id) s Q := by
  unfold Engine.get
  apply Operation.proceeds_bind
  apply Operation.proceeds_call (guarded_answer_of_isRead rfl)
  apply ends_call
  . exact fun err s' _ => hmissing err s'
  . intro found s' hc
    have hfind : (s.memory.store.find? id).map (·.interval) = found := Except.ok.inj hc.answer
    rw [hstore] at hfind
    cases found with
    | none => exact Operation.proceeds_throw (hmissing _ s')
    | some target =>
      obtain ⟨row, hrow, rfl⟩ := Option.map_eq_some_iff.1 hfind
      exact Operation.proceeds_pure (hfound row s' hrow (hP s' _ ((hc.of_isRead rfl).1.trans hstore) hc.calls rfl))

namespace Awaits

/--
Under its lock an operation needs to take care of one monitor only.
-/
theorem locked (h : s.Awaits store) {body : Operation α}
    (hbody : ∀ s', s'.Secures monitor store →
      Operation.Proceeds (answer stamp faults) Guarded body s' fun _ _ => True) :
    Operation.Proceeds (answer stamp faults) Guarded (Engine.locked monitor body) s fun _ _ => True := by
  unfold Engine.locked
  apply Operation.proceeds_bind
  apply Operation.proceeds_call (guarded_answer_of_isRead rfl)
  apply ends_call
  . exact fun _ _ _ => trivial
  . intro token s₁ hc
    have hkept : ∀ x ∈ s₁.calls, x.released? = none := by
      rw [hc.calls, List.forall_mem_append, List.forall_mem_singleton]
      exact ⟨h.kept, rfl⟩
    have hgranted : ⟨.lock (Engine.lockKey monitor), .ok token⟩ ∈ s₁.calls := by
      rw [hc.calls]
      exact List.mem_append_right _ (List.mem_singleton_self _)
    apply Operation.proceeds_finish
    apply (hbody s₁ ⟨⟨⟨token, hgranted⟩, hkept⟩, (hc.of_isRead rfl).1.trans h.store⟩).mono
    exact fun _ _ _ => guarded_answer_of_isRead rfl

theorem record (h : s.Awaits store) (hids : store.ids.Nodup) (hfresh : store.contains stamp.id = false)
    (r : ChangeRequest) : Operation.Proceeds (answer stamp faults) Guarded (e.record r) s fun _ _ => True := by
  unfold Engine.record
  cases r.monitorId with
  | none => exact Operation.proceeds_throw trivial
  | some monitor =>
    cases r.statusId with
    | none => exact Operation.proceeds_throw trivial
    | some status =>
      apply h.locked
      intro s' hs'
      rw [Engine.recordLocked_eq]
      apply Operation.proceeds_bind
      apply (hs'.rootCause r).mono
      rintro _ s'' ⟨⟨cause, rfl⟩, hs''⟩
      exact Secures.succeed hs'' hids hfresh

/--
The interval that a deletion looks up again under the lock is the monitor's whose lock it is.
-/
theorem delete (h : s.Awaits store) (hids : store.ids.Nodup) (id : Uuid) :
    Operation.Proceeds (answer stamp faults) Guarded (e.delete id) s fun _ _ => True := by
  unfold Engine.delete
  apply Operation.proceeds_bind
  apply proceeds_get (P := Awaits store) h.store id
  . intro s' x hstore hcalls hx
    refine ⟨hstore, ?_⟩
    rw [hcalls, List.forall_mem_append, List.forall_mem_singleton]
    exact ⟨h.kept, hx⟩
  . exact fun _ _ => trivial
  intro row s₁ hrow h₁
  apply h₁.locked
  intro s₂ h₂
  rw [Engine.deleteLocked_eq]
  apply Operation.proceeds_bind
  apply proceeds_get (P := Secures row.interval.monitorId store) h₂.store id
  . exact fun s' x hstore hcalls hx => ⟨h₂.holds.later hcalls hx, hstore⟩
  . exact fun _ _ => trivial
  intro row' s₃ hrow' h₃
  cases hrow.symm.trans hrow'
  exact h₃.cutOutOne hids (Store.mem_history.2 ⟨row, (Store.find?_mem hrow).1, rfl, rfl⟩)

end Awaits

end Attempt

namespace Engine

/--
Whoever answers the calls of a record or a deletion, and whichever of them fail: at most one lock is asked for, under
the key of the monitor that the request concerns; it is given back exactly when it was granted; what writes comes
between the two; an error of the request itself goes before one of the release; and a request without its fields makes
no call at all. In a memory no call changes the intervals or the pointer of a monitor whose lock was not granted or is
given back.
-/
theorem lock_disciplined (e : Engine) (r : Request) (hr : r.Writes) :
    (∀ (σ : Type) (answer : Answering σ) (s : σ), r.Disciplined e answer s) ∧
      ∀ (m : Memory) (stamp : Stamp) (faults : Nat → Option Error),
        m.store.ids.Nodup → m.store.contains stamp.id = false →
          (r.operation e).run.Along (Attempt.answer stamp faults) Attempt.Guarded { memory := m } := by
  cases r with
  | record r =>
    refine ⟨fun _ _ _ => Request.disciplined_record r, fun m stamp faults hids hfresh => ?_⟩
    have hstart : Attempt.Awaits m.store { memory := m } := ⟨rfl, by simp⟩
    exact (hstart.record hids hfresh r).1
  | delete id =>
    refine ⟨fun _ _ _ => Request.disciplined_delete id, fun m stamp faults hids hfresh => ?_⟩
    have hstart : Attempt.Awaits m.store { memory := m } := ⟨rfl, by simp⟩
    exact (hstart.delete hids id).1
  | _ => exact hr.elim

/--
Calls number 6 and 7 of a deletion in steps are the removal and the release.
-/
theorem lock_disciplined_halfway :
    let record (serial : Nat) : Turn :=
      { request := .record { monitorId := some (.ofSerial 1), statusId := some (.ofSerial serial) }
        stamp := { id := .ofSerial serial, now := .ofNanos 9000 } }
    let m := Memory.after {} {} [record 11, record 12]
    let e : Engine := { compound := .stepwise }
    let r : Request := .delete (.ofSerial 12)
    let faults : Nat → Option Error := fun n =>
      if n = 6 then some (.database .poolTimedOut) else if n = 7 then some (.lock (.other "release refused")) else none
    let answer := Attempt.answer { id := .ofSerial 13, now := .ofNanos 9000 } faults
    m.store.ids.Nodup ∧ m.store.contains (.ofSerial 13) = false ∧
      (((r.operation e).calls answer { memory := m }).filterMap Answered.granted?).length = 1 ∧
      ((r.operation e).execute answer { memory := m }).1 = .error (.database .poolTimedOut) ∧
      r.Disciplined e answer { memory := m } ∧ (r.operation e).run.Along answer Attempt.Guarded { memory := m } := by
  refine ⟨by decide +kernel, by decide +kernel, by decide +kernel, by rfl, ?_⟩
  have h := lock_disciplined { compound := .stepwise } (.delete (.ofSerial 12)) trivial
  exact ⟨h.1 _ _ _, h.2 _ _ _ (by decide +kernel) (by decide +kernel)⟩

end Engine

end StatusTimeline
