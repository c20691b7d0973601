import StatusTimeline.Proofs.Engine.Attempt
import StatusTimeline.Proofs.Engine.Once
import StatusTimeline.Proofs.Store.Sorted

/-!
This module contains what a record or a deletion that fails leaves behind, whichever calls to the collaborators have
failed: nothing, or its whole write to the store, or that and the pointer that follows it.
-/

namespace StatusTimeline

/--
The call by which a request writes to the store.
-/
def Request.Stores : Request → StoreCall → Prop
  | .record r, .append new _ => r.monitorId = some new.monitorId
  | .delete id, .applyDeletion plan => plan.target = id
  | _, _ => False

/--
The calls by which a request lets the pointer follow what it has stored.
-/
def Request.Settles : Request → Call → Prop
  | .record _, .setPointer _ => True
  | .delete _, .setPointer _ => True
  | .delete _, .store (.findLatest _) => True
  | _, _ => False

/--
The calls of a request have written to the store and not to the board, as one of those that follow has failed.
-/
inductive WroteStore (r : Request) (v v' : Snapshot) : List Answered → Prop where
  | intro (c : StoreCall) (a : c.Answer) (before after : List Answered) (hc : r.Stores c)
    (hfailed : ∃ x ∈ after, x.failed = true ∧ r.Settles x.call) (h : v' = v.stored c a) :
    WroteStore r v v' (before ++ ⟨.store c, .ok a⟩ :: after)

/--
The calls of a request have written to the store and to the board, and none but lookups has failed.
-/
inductive WroteBoth (r : Request) (v v' : Snapshot) : List Answered → Prop where
  | intro (c : StoreCall) (a : c.Answer) (update : PointerUpdate) (before after : List Answered) (hc : r.Stores c)
    (hfailed : ∀ x ∈ before ++ after, x.failed = true → x.call.isLookup = true)
    (h : v' = (v.stored c a).pointed update) :
    WroteBoth r v v' (before ++ ⟨.store c, .ok a⟩ :: (after ++ [⟨.setPointer update, .ok ()⟩]))

/--
What a failed request leaves behind.
-/
inductive Leaves (r : Request) (v v' : Snapshot) : List Answered → Prop where
  | nothing (calls : List Answered) (h : v' = v) : Leaves r v v' calls
  | stored (calls : List Answered) (token : Token) (released : Except Error Unit) (h : WroteStore r v v' calls) :
    Leaves r v v' (calls ++ [⟨.release token, released⟩])
  | both (calls : List Answered) (token : Token) (err : Error) (h : WroteBoth r v v' calls) :
    Leaves r v v' (calls ++ [⟨.release token, .error err⟩])

theorem DeletionPlan.applyTo_ne_nil (plan : DeletionPlan) {is : List Interval}
    (hids : is.Pairwise fun i j => i.id ≠ j.id) (hmany : 1 < is.length) : plan.applyTo is ≠ [] := by
  obtain ⟨i, hi, hne⟩ : ∃ i ∈ is, i.id ≠ plan.target := by
    match is, hids, hmany with
    | i :: j :: is, hids, _ =>
      by_cases heq : i.id = plan.target
      . have hij : i.id ≠ j.id := (List.pairwise_cons.1 hids).1 j (by simp)
        exact ⟨j, by simp, fun hj => hij (heq.trans hj.symm)⟩
      . exact ⟨i, by simp, heq⟩
  unfold applyTo
  cases plan.repair with
  | none => exact List.ne_nil_of_mem (List.mem_filter.2 ⟨hi, by simpa using hne⟩)
  | some repair =>
    apply List.ne_nil_of_mem
    apply List.mem_filter.2 ⟨List.mem_map_of_mem hi, _⟩
    simpa [Interval.endAt_id] using hne

namespace Store

/--
After a deletion a monitor that had several intervals has a latest one.
-/
theorem latest?_applyDeletion {s s' : Store} {monitor : Uuid} {plan : DeletionPlan} (hids : s.ids.Nodup)
    (hmany : 1 < (Row.ofMonitor monitor s.rows).length) (happ : s.applyDeletion plan = (.ok (), s')) :
    ∃ latest, Row.latest? monitor s'.rows = some latest := by
  have hids : (s.history monitor).Pairwise fun i j => i.id ≠ j.id := by
    rw [ids, List.Nodup, List.pairwise_map] at hids
    rw [history, List.pairwise_map]
    exact hids.sublist List.filter_sublist
  rw [length_history] at hmany
  cases hlatest : Row.latest? monitor s'.rows with
  | some latest => exact ⟨latest, rfl⟩
  | none =>
    have hnone := greatest?_eq_none (Option.map_eq_none_iff.1 hlatest)
    have hnil : s'.history monitor = [] := by rw [history, hnone, List.map_nil]
    rw [history_applyDeletion happ] at hnil
    exact absurd hnil (plan.applyTo_ne_nil hids hmany)

end Store

namespace Attempt

/--
Nothing was written, and nothing but lookups has failed.
-/
structure Untouched (m : Memory) (s : Attempt) : Prop where
  store : s.memory.store = m.store
  board : s.memory.board = m.board
  clean : ∀ x ∈ s.calls, x.failed = true → x.call.isLookup = true

/--
How the part of a request under the lock ends.
-/
def Concludes {α : Type} (r : Request) (v : Snapshot) : Except Error α → Attempt → Prop
  | .ok _, s => WroteBoth r v s.snapshot s.calls
  | .error _, s => s.snapshot = v ∨ WroteStore r v s.snapshot s.calls

/--
The store was written to, and nothing but lookups has failed.
-/
structure Written (r : Request) (v : Snapshot) (c : StoreCall) (a : c.Answer) (s : Attempt) : Prop where
  stores : r.Stores c
  snapshot : s.snapshot = v.stored c a
  calls : ∃ before after, s.calls = before ++ ⟨.store c, .ok a⟩ :: after ∧
    ∀ x ∈ before ++ after, x.failed = true → x.call.isLookup = true

variable {m : Memory} {stamp : Stamp} {faults : Nat → Option Error} {s s' : Attempt} {e : Engine} {r : Request}
  {c : Call} {a : c.Answer}

namespace Written

variable {v : Snapshot} {w : StoreCall} {b : w.Answer}

theorem granted (h : s.Written r v w b) (hread : c.isRead = true) (hc : Granted stamp s c a s') :
    s'.Written r v w b := by
  obtain ⟨before, after, hcalls, hclean⟩ := h.calls
  have hkept := hc.of_isRead hread
  refine ⟨h.stores, (snapshot_congr hkept.1 hkept.2).trans h.snapshot, before, after ++ [⟨c, .ok a⟩], ?_, ?_⟩
  . rw [hc.calls, hcalls, List.append_assoc, List.cons_append]
  . rw [← List.append_assoc, List.forall_mem_append, List.forall_mem_singleton]
    exact ⟨hclean, fun hfailed => by cases hfailed⟩

theorem refused (h : s.Written r v w b) (hc : s.Refused c s') (hsettles : r.Settles c) :
    WroteStore r v s'.snapshot s'.calls := by
  obtain ⟨before, after, hcalls, _⟩ := h.calls
  obtain ⟨err, hcalls'⟩ := hc.calls
  rw [hcalls', hcalls, List.append_assoc, List.cons_append]
  refine .intro w b before _ h.stores ⟨_, List.mem_append_right _ List.mem_cons_self, rfl, hsettles⟩ ?_
  exact hc.snapshot.trans h.snapshot

theorem pointed (h : s.Written r v w b) {update : PointerUpdate} {u : Unit}
    (hc : Granted stamp s (.setPointer update) u s') : WroteBoth r v s'.snapshot s'.calls := by
  obtain ⟨before, after, hcalls, hclean⟩ := h.calls
  rw [hc.calls, hcalls, List.append_assoc, List.cons_append]
  refine .intro w b update before after h.stores hclean ?_
  rw [hc.pointed, h.snapshot]

end Written

namespace Untouched

theorem start (m : Memory) : Untouched m { memory := m } := ⟨rfl, rfl, by simp⟩

theorem snapshot_eq (h : s.Untouched m) : s.snapshot = m.snapshot := by
  simp only [snapshot, Memory.snapshot, h.store, h.board]

theorem refused (h : s.Untouched m) (hc : s.Refused c s') : s'.snapshot = m.snapshot :=
  hc.snapshot.trans h.snapshot_eq

theorem unknown (h : s.Untouched m) {user : Uuid} (hc : s.Refused (.resolve user) s') : s'.Untouched m := by
  refine ⟨hc.store.trans h.store, hc.board.trans h.board, ?_⟩
  obtain ⟨err, hcalls⟩ := hc.calls
  rw [hcalls, List.forall_mem_append, List.forall_mem_singleton]
  exact ⟨h.clean, fun _ => rfl⟩

theorem granted (h : s.Untouched m) (hread : c.isRead = true) (hc : Granted stamp s c a s') : s'.Untouched m := by
  have hkept := hc.of_isRead hread
  refine ⟨hkept.1.trans h.store, hkept.2.trans h.board, ?_⟩
  rw [hc.calls, List.forall_mem_append, List.forall_mem_singleton]
  exact ⟨h.clean, fun hfailed => by cases hfailed⟩

theorem written (h : s.Untouched m) {w : StoreCall} {b : w.Answer} (hw : r.Stores w)
    (hc : Granted stamp s (.store w) b s') : s'.Written r m.snapshot w b := by
  refine ⟨hw, ?_, s.calls, [], hc.calls, ?_⟩
  . rw [hc.stored, h.snapshot_eq]
  . simpa using h.clean

theorem rootCause (h : s.Untouched m) (r : ChangeRequest) :
    Operation.Ends (answer stamp faults) (e.rootCause r) s fun outcome s' =>
      ∃ cause, outcome = .ok cause ∧ s'.Untouched m := by
  unfold Engine.rootCause
  cases r.rootCause with
  | some given => exact Operation.ends_pure ⟨_, rfl, h⟩
  | none =>
    unfold Engine.annotate
    cases r.initiatingUser with
    | none => exact Operation.ends_pure ⟨_, rfl, h⟩
    | some user =>
      cases e.directory with
      | false => exact Operation.ends_pure ⟨_, rfl, h⟩
      | true =>
        apply Operation.ends_bind
        apply Operation.ends_tryCatch
        apply ends_call
        . intro err s' hc
          exact ⟨_, rfl, h.unknown hc⟩
        . intro answer s' hc
          cases answer <;> exact ⟨_, rfl, h.granted rfl hc⟩

theorem succeed (h : s.Untouched m) (he : e.compound = .whole) {r : ChangeRequest} {new : NewInterval}
    (hnew : r.monitorId = some new.monitorId) :
    Operation.Ends (answer stamp faults) (e.succeed new) s (Concludes (.record r) m.snapshot) := by
  unfold Engine.succeed Engine.append
  simp only [he]
  apply Operation.ends_bind
  apply ends_call
  . intro err s₁ hc
    exact .inl (h.refused hc)
  intro prior s₁ hc₁
  have h₁ := h.granted rfl hc₁
  apply Operation.ends_bind
  apply ends_call
  . intro err s₂ hc
    exact .inl (h₁.refused hc)
  intro created s₂ hc₂
  have hstores : (Request.record r).Stores (.append new (prior.map (·.id))) := hnew
  have h₂ := h₁.written hstores hc₂
  apply Operation.ends_bind
  apply ends_call
  . intro err s₃ hc
    exact .inr (h₂.refused hc trivial)
  . intro _ s₃ hc
    exact h₂.pointed hc

theorem cutOut (h : s.Untouched m) (he : e.compound = .whole) (hids : m.store.ids.Nodup) {target : Interval}
    (hmany : 1 < (Row.ofMonitor target.monitorId m.store.rows).length) :
    Operation.Ends (answer stamp faults) (e.cutOut target) s (Concludes (.delete target.id) m.snapshot) := by
  unfold Engine.cutOut Engine.applyDeletion
  simp only [he]
  apply Operation.ends_bind
  apply ends_call
  . intro err s₁ hc
    exact .inl (h.refused hc)
  intro neighbors s₁ hc₁
  have h₁ := h.granted rfl hc₁
  apply Operation.ends_bind
  apply ends_call
  . intro err s₂ hc
    exact .inl (h₁.refused hc)
  intro _ s₂ hc₂
  have hstores : (Request.delete target.id).Stores (.applyDeletion (.restitch target neighbors)) := rfl
  have h₂ := h₁.written hstores hc₂
  -- some interval of the monitor is left, so that there is a pointer to set
  obtain ⟨latest, hlatest⟩ : ∃ latest, Row.latest? target.monitorId s₂.memory.store.rows = some latest := by
    apply Store.latest?_applyDeletion hids hmany
    rw [← h₁.store, hc₂.memory]
    exact Prod.ext hc₂.answer rfl
  unfold Engine.settle
  apply Operation.ends_bind
  apply Operation.ends_bind
  apply ends_call
  . intro err s₃ hc
    exact .inr (h₂.refused hc trivial)
  intro found s₃ hc₃
  have hfound : Row.latest? target.monitorId s₂.memory.store.rows = found := Except.ok.inj hc₃.answer
  rw [← hfound, hlatest] at hc₃ ⊢
  have h₃ := h₂.granted rfl hc₃
  apply Operation.ends_bind
  apply ends_call
  . intro err s₄ hc
    exact .inr (h₃.refused hc trivial)
  . intro _ s₄ hc
    exact h₃.pointed hc

/--
A search for an interval finds one that is stored, or ends with an error and nothing written.
-/
theorem get (h : s.Untouched m) (id : Uuid) {Q : Except Error Interval → Attempt → Prop}
    (hrefused : ∀ err s', s'.snapshot = m.snapshot → Q (.error err) s')
    (hfound : ∀ row s', m.store.find? id = some row → s'.Untouched m → Q (.ok row.interval) s') :
    Operation.Ends (answer stamp faults) (Engine.get id) s Q := by
  unfold Engine.get
  apply Operation.ends_bind
  apply ends_call
  . intro err s₁ hc
    exact hrefused err s₁ (h.refused hc)
  intro found s₁ hc₁
  have h₁ := h.granted rfl hc₁
  have hfind : (s.memory.store.find? id).map (·.interval) = found := Except.ok.inj hc₁.answer
  rw [h.store] at hfind
  cases found with
  | none => exact Operation.ends_throw (hrefused _ s₁ h₁.snapshot_eq)
  | some target =>
    obtain ⟨row, hrow, rfl⟩ := Option.map_eq_some_iff.1 hfind
    exact Operation.ends_pure (hfound row s₁ hrow h₁)

theorem cutOutOne (h : s.Untouched m) (he : e.compound = .whole) (hids : m.store.ids.Nodup) (target : Interval) :
    Operation.Ends (answer stamp faults) (e.cutOutOne target) s (Concludes (.delete target.id) m.snapshot) := by
  unfold Engine.cutOutOne
  apply Operation.ends_bind
  apply ends_call
  . intro err s₁ hc
    exact .inl (h.refused hc)
  intro count s₁ hc₁
  have h₁ := h.granted rfl hc₁
  have hcount : (Row.ofMonitor target.monitorId s.memory.store.rows).length = count := Except.ok.inj hc₁.answer
  rw [← hcount, h.store]
  dsimp only
  split
  . exact .inl h₁.snapshot_eq
  . next hmany => exact h₁.cutOut he hids (Nat.lt_of_not_le hmany)

theorem deleteLocked (h : s.Untouched m) (he : e.compound = .whole) (hids : m.store.ids.Nodup) (id : Uuid) :
    Operation.Ends (answer stamp faults) (e.deleteLocked id) s (Concludes (.delete id) m.snapshot) := by
  rw [Engine.deleteLocked_eq]
  apply Operation.ends_bind
  apply h.get id
  . intro err s' hkept
    exact .inl hkept
  . intro row s' hrow h'
    obtain ⟨_, rfl⟩ := Store.find?_mem hrow
    exact h'.cutOutOne he hids row.interval

/--
Under a lock a request that fails leaves behind what its body does, and the release changes nothing of it.
-/
theorem locked {α : Type} (h : s.Untouched m) {monitor : Uuid} {body : Operation α}
    (hbody : ∀ s', s'.Untouched m → Operation.Ends (answer stamp faults) body s' (Concludes r m.snapshot)) :
    Operation.Ends (answer stamp faults) (Engine.locked monitor body) s fun outcome s' =>
      ∀ err, outcome = .error err → Leaves r m.snapshot s'.snapshot s'.calls := by
  unfold Engine.locked
  apply Operation.ends_bind
  apply ends_call
  . intro err s₁ hc _ _
    exact .nothing _ (h.refused hc)
  intro token s₁ hc₁
  apply Operation.ends_finish
  apply (hbody s₁ (h.granted rfl hc₁)).mono
  intro outcome s₂ hconcludes err herr
  have hreleased : (answer stamp faults s₂ (.release token)).2.snapshot = s₂.snapshot := answer_of_isRead rfl
  rw [hreleased, answer_calls]
  cases outcome with
  | error err' =>
    rcases hconcludes with hnothing | hstored
    . exact .nothing _ hnothing
    . exact .stored _ _ _ hstored
  | ok b =>
    cases hanswer : (answer stamp faults s₂ (.release token)).1 with
    | error err' => exact .both _ _ _ hconcludes
    | ok _ =>
      rw [hanswer] at herr
      cases herr

theorem record (h : s.Untouched m) (he : e.compound = .whole) (r : ChangeRequest) :
    Operation.Ends (answer stamp faults) (e.record r) s fun outcome s' =>
      ∀ err, outcome = .error err → Leaves (.record r) m.snapshot s'.snapshot s'.calls := by
  have hnothing : Leaves (.record r) m.snapshot s.snapshot s.calls := .nothing _ h.snapshot_eq
  unfold Engine.record
  cases hmonitor : r.monitorId with
  | none => exact Operation.ends_throw fun _ _ => hnothing
  | some monitor =>
    cases r.statusId with
    | none => exact Operation.ends_throw fun _ _ => hnothing
    | some status =>
      apply h.locked
      intro s' h'
      rw [Engine.recordLocked_eq]
      apply Operation.ends_bind
      apply (h'.rootCause r).mono
      intro outcome s'' ⟨cause, houtcome, h''⟩
      rw [houtcome]
      exact h''.succeed he hmonitor

theorem delete (h : s.Untouched m) (he : e.compound = .whole) (hids : m.store.ids.Nodup) (id : Uuid) :
    Operation.Ends (answer stamp faults) (e.delete id) s fun outcome s' =>
      ∀ err, outcome = .error err → Leaves (.delete id) m.snapshot s'.snapshot s'.calls := by
  unfold Engine.delete
  apply Operation.ends_bind
  apply h.get id
  . intro err s' hkept _ _
    exact .nothing _ hkept
  . intro row s' _ h'
    apply h'.locked
    intro s'' h''
    exact h''.deleteLocked he hids id

end Untouched

end Attempt

namespace Memory

/--
What becomes of a memory and of the calls of a request when the calls that `faults` tells fail.
-/
def attempt (e : Engine) (m : Memory) (stamp : Stamp) (faults : Nat → Option Error) (r : Request) :
    Except Error r.Answer × Attempt :=
  (r.operation e).execute (Attempt.answer stamp faults) { memory := m }

/--
Whichever calls have failed, a record or a deletion that ends with an error leaves nothing behind, or its write to the
store when a call that was to settle the pointer has failed, or that and the pointer when the release has failed, and
nothing else but lookups.
-/
theorem attempt_leaves (e : Engine) (he : e.compound = .whole) (m : Memory) (hids : m.store.ids.Nodup) (stamp : Stamp)
    (faults : Nat → Option Error) (r : Request) (hr : r.Writes) (err : Error)
    (herr : (m.attempt e stamp faults r).1 = .error err) :
    Leaves r m.snapshot (m.attempt e stamp faults r).2.snapshot (m.attempt e stamp faults r).2.calls := by
  cases r with
  | record r => exact (Attempt.Untouched.start m).record he r err herr
  | delete id => exact (Attempt.Untouched.start m).delete he hids id err herr
  | _ => exact hr.elim

/--
Call number 6 of a deletion is the search for the latest interval. Once it has failed, call number 7 is the release, which
fails, too. The error of the search is the one that is told.
-/
theorem attempt_leaves_unsettled :
    let record (serial : Nat) : Turn :=
      { request := .record { monitorId := some (.ofSerial 1), statusId := some (.ofSerial serial) }
        stamp := { id := .ofSerial serial, now := .ofNanos 9000 } }
    let m := after {} {} [record 11, record 12]
    let faults : Nat → Option Error := fun n =>
      if n = 6 then some (.database .poolTimedOut)
      else if n = 7 then some (.lock (.other "release refused"))
      else none
    let ended := m.attempt {} { id := .ofSerial 13, now := .ofNanos 9000 } faults (.delete (.ofSerial 12))
    m.store.ids.Nodup ∧ ended.1 = .error (.database .poolTimedOut) ∧ ended.2.snapshot.intervals.length = 1 ∧
      (ended.2.calls.filter (·.failed)).length = 2 ∧
      Leaves (.delete (.ofSerial 12)) m.snapshot ended.2.snapshot ended.2.calls := by
  refine ⟨by decide +kernel, by rfl, by decide +kernel, by decide +kernel, ?_⟩
  exact attempt_leaves {} rfl _ (by decide +kernel) _ _ (.delete (.ofSerial 12)) trivial (.database .poolTimedOut) (by rfl)

/--
When the lookup of the user has failed besides the release, a record leaves its interval and its pointer behind
although another call than the release has failed.
-/
theorem both_left_lookupFailed :
    let m : Memory := { directory := { entries := [(.ofSerial 7, { name := "Ada", email := "ada@example.org" })] } }
    let faults : Nat → Option Error := fun n =>
      if n = 1 then some (.collaborator "directory down")
      else if n = 5 then some (.lock (.other "release refused"))
      else none
    let r : ChangeRequest := { monitorId := some (.ofSerial 1), statusId := some (.ofSerial 2), actor := some (.ofSerial 7) }
    let ended := m.attempt { directory := true } { id := .ofSerial 11, now := .ofNanos 9000 } faults (.record r)
    ended.1 = .error (.lock (.other "release refused")) ∧
      m.snapshot.intervals.length = 0 ∧ ended.2.snapshot.intervals.length = 1 ∧
      m.snapshot.pointers (.ofSerial 1) = none ∧ ended.2.snapshot.pointers (.ofSerial 1) = some (.ofSerial 2) ∧
      ended.2.calls.any (fun x => x.failed && !x.call.isRelease) = true :=
  ⟨by rfl, by decide +kernel, by decide +kernel, by decide +kernel, by decide +kernel, by decide +kernel⟩

end Memory

end StatusTimeline
