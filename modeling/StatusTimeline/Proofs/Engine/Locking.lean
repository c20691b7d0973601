import StatusTimeline.Proofs.Engine.Calls
import StatusTimeline.Proofs.Engine.Failure

/-!
This module contains the discipline by which the writing operations of an engine deal with locks, whoever the
collaborators are and whichever of their calls fail: at most one lock is acquired, it is given back exactly when it was
granted, and nothing is written outside of it.
-/

namespace StatusTimeline

namespace Call

def isLock : Call → Bool
  | lock _ => true
  | _ => false

def isLocking (c : Call) : Bool := c.isLock || c.isRelease

/--
Whether a deletion may make a call under its lock: it reads, sets ends and pointers, and removes.
-/
def deletes : Call → Bool
  | store (.insert _) => false
  | store (.append _ _) => false
  | store (.purge _) => false
  | store _ => true
  | setPointer _ => true
  | resolve _ => true
  | lock _ => false
  | release _ => false

end Call

namespace Answered

def granted? : Answered → Option Token
  | ⟨.lock _, .ok token⟩ => some token
  | _ => none

def released? : Answered → Option Token
  | ⟨.release token, _⟩ => some token
  | _ => none

theorem granted?_of_not_locking {x : Answered} (h : x.call.isLocking = false) : x.granted? = none := by
  obtain ⟨c, answer⟩ := x
  cases c <;> first | rfl | cases h

theorem released?_of_not_locking {x : Answered} (h : x.call.isLocking = false) : x.released? = none := by
  obtain ⟨c, answer⟩ := x
  cases c <;> first | rfl | cases h

end Answered

/--
What is granted in some calls is what is given back in them, and that is at most one lock. Writes come between the two.
-/
structure LockedOnce (calls : List Answered) : Prop where
  acquired : calls.countP (·.call.isLock) ≤ 1
  returned : calls.filterMap Answered.released? = calls.filterMap Answered.granted?
  guarded : ∀ before x after, calls = before ++ x :: after → x.call.isRead = false →
    (∃ token, before.filterMap Answered.granted? = [token]) ∧ before.filterMap Answered.released? = []

section Lists

variable {before inside calls : List Answered}

theorem filterMap_granted? (h : ∀ x ∈ calls, x.call.isLocking = false) :
    calls.filterMap Answered.granted? = [] := by
  rw [List.filterMap_eq_nil_iff]
  exact fun x hx => Answered.granted?_of_not_locking (h x hx)

theorem filterMap_released? (h : ∀ x ∈ calls, x.call.isLocking = false) :
    calls.filterMap Answered.released? = [] := by
  rw [List.filterMap_eq_nil_iff]
  exact fun x hx => Answered.released?_of_not_locking (h x hx)

theorem countP_isLock (h : ∀ x ∈ calls, x.call.isLocking = false) : calls.countP (·.call.isLock) = 0 := by
  rw [List.countP_eq_zero]
  intro x hx
  have := h x hx
  simp_all [Call.isLocking]

/--
Where a write stands in calls of which the first ones and the last one are none.
-/
theorem split_of_write {first last x : Answered} {heads tails : List Answered}
    (hbefore : ∀ y ∈ before, y.call.isRead = true) (hfirst : first.call.isRead = true) (hlast : last.call.isRead = true)
    (h : before ++ first :: (inside ++ [last]) = heads ++ x :: tails) (hx : x.call.isRead = false) :
    ∃ done, heads = before ++ first :: done ∧ done <+: inside := by
  have hne : ∀ y : Answered, y.call.isRead = true → x ≠ y := by
    intro y hy heq
    rw [heq, hy] at hx
    cases hx
  rcases List.append_eq_append_iff.1 h with ⟨done, rfl, hdone⟩ | ⟨done, rfl, hdone⟩
  . cases done with
    | nil => exact absurd (List.cons.inj hdone).1.symm (hne first hfirst)
    | cons y done =>
      obtain ⟨rfl, hrest⟩ := List.cons.inj hdone
      refine ⟨done, rfl, ?_⟩
      rcases List.append_eq_append_iff.1 hrest with ⟨more, rfl, hmore⟩ | ⟨more, rfl, _⟩
      . cases more with
        | nil => exact absurd (List.cons.inj hmore).1.symm (hne last hlast)
        | cons z more => simp at hmore
      . exact List.prefix_append ..
  . cases done with
    | nil => exact absurd (List.cons.inj hdone).1 (hne first hfirst)
    | cons y done =>
      obtain ⟨rfl, _⟩ := List.cons.inj hdone
      exact absurd rfl (hne x (hbefore x (by simp)))

/--
Calls that neither lock nor write.
-/
theorem lockedOnce_of_reads (hlocking : ∀ x ∈ calls, x.call.isLocking = false)
    (hread : ∀ x ∈ calls, x.call.isRead = true) : LockedOnce calls where
  acquired := by rw [countP_isLock hlocking]; exact Nat.zero_le 1
  returned := by rw [filterMap_released? hlocking, filterMap_granted? hlocking]
  guarded := by
    rintro heads x tails rfl hx
    rw [hread x (by simp)] at hx
    cases hx

theorem lockedOnce_of_refused {key : String} {err : Error} (hlocking : ∀ x ∈ before, x.call.isLocking = false)
    (hread : ∀ x ∈ before, x.call.isRead = true) : LockedOnce (before ++ [⟨.lock key, .error err⟩]) where
  acquired := by
    rw [List.countP_append, countP_isLock hlocking]
    exact Nat.le_refl 1
  returned := by
    rw [List.filterMap_append, List.filterMap_append, filterMap_released? hlocking, filterMap_granted? hlocking]
    rfl
  guarded := by
    intro heads x tails heq hx
    have hmem : x ∈ before ++ [⟨.lock key, .error err⟩] := heq ▸ by simp
    rcases List.mem_append.1 hmem with hmem | hmem
    . rw [hread x hmem] at hx
      cases hx
    . rw [List.mem_singleton.1 hmem] at hx
      cases hx

theorem lockedOnce_of_granted {key : String} {token : Token} {released : Except Error Unit}
    (hlocking : ∀ x ∈ before, x.call.isLocking = false) (hread : ∀ x ∈ before, x.call.isRead = true)
    (hinside : ∀ x ∈ inside, x.call.isLocking = false) :
    LockedOnce (before ++ ⟨.lock key, .ok token⟩ :: (inside ++ [⟨.release token, released⟩])) where
  acquired := by
    rw [List.countP_append, List.countP_cons, List.countP_append, countP_isLock hlocking, countP_isLock hinside]
    exact Nat.le_refl 1
  returned := by
    simp only [List.filterMap_append, List.filterMap_cons, filterMap_released? hlocking,
      filterMap_granted? hlocking, filterMap_released? hinside, filterMap_granted? hinside]
    rfl
  guarded := by
    intro heads x tails heq hx
    obtain ⟨done, rfl, hdone⟩ := split_of_write hread rfl rfl heq hx
    have hquiet : ∀ y ∈ done, y.call.isLocking = false := fun y hy => hinside y (hdone.subset hy)
    rw [List.filterMap_append, List.filterMap_append, List.filterMap_cons, List.filterMap_cons,
      filterMap_granted? hlocking, filterMap_granted? hquiet, filterMap_released? hlocking, filterMap_released? hquiet]
    exact ⟨⟨token, rfl⟩, rfl⟩

end Lists

/--
The same collaborators, except that giving back a lock never fails.
-/
def Answering.returning {σ : Type} (answer : Answering σ) : Answering σ := fun s c =>
  match c with
  | .release token => (.ok (), (answer s (.release token)).2)
  | c => answer s c

theorem Answering.returning_of_not_locking {σ : Type} (answer : Answering σ) (s : σ) (c : Call)
    (h : c.isLocking = false) : answer.returning s c = answer s c := by
  cases c <;> first | rfl | cases h

namespace Operation

variable {σ α β : Type}

/--
An error of an operation itself is its result. Where it succeeds, giving back the lock decides.
-/
structure Outlasts (answer : Answering σ) (x : Operation α) (s : σ) : Prop where
  failed : ∀ err, (x.execute answer.returning s).1 = .error err → (x.execute answer s).1 = .error err
  succeeded : ∀ a, (x.execute answer.returning s).1 = .ok a →
    ∃ token released, ⟨.release token, released⟩ ∈ x.calls answer s ∧
      (x.execute answer s).1 = released.map fun _ => a

def Lockless (x : Operation α) : Prop := x.Confined fun c => c.isLocking = false

def Looks (x : Operation α) : Prop := x.Confined fun c => c.isLocking = false ∧ c.isRead = true

def Deletes (x : Operation α) : Prop := x.Confined fun c => c.deletes = true

variable {answer : Answering σ} {s : σ} {look : Operation β} {monitor : β → Uuid} {body : β → Operation α}

theorem Lockless.execute_returning {x : Operation α} (h : x.Lockless) (s : σ) :
    x.execute answer.returning s = x.execute answer s :=
  h.execute_congr answer.returning_of_not_locking s

theorem lockless_bind {x : Operation α} {f : α → Operation β} (hx : x.Lockless) (hf : ∀ a, (f a).Lockless) :
    (x >>= f).Lockless :=
  confined_bind hx hf

theorem lockless_call {c : Call} (h : c.isLocking = false) : Lockless c.perform := confined_call h

theorem Looks.lockless {x : Operation α} (h : x.Looks) : x.Lockless :=
  Program.Confined.mono h fun _ => And.left

theorem deletes_call {c : Call} (h : c.deletes = true) : Deletes c.perform := confined_call h

theorem Looks.deletes {x : Operation α} (h : x.Looks) : x.Deletes := by
  apply Program.Confined.mono h
  intro c hc
  cases c with
  | store c => cases c <;> first | rfl | cases hc.2
  | setPointer update => cases hc.2
  | resolve user => rfl
  | lock key => cases hc.1
  | release token => cases hc.1

theorem Deletes.lockless {x : Operation α} (h : x.Deletes) : x.Lockless := by
  apply Program.Confined.mono h
  intro c hc
  cases c <;> first | rfl | cases hc

/--
What looks first and then works under a lock.
-/
theorem lockedOnce_locked (hlook : look.Looks) (hbody : ∀ b, (body b).Lockless) :
    LockedOnce ((look >>= fun b => Engine.locked (monitor b) (body b)).calls answer s) := by
  have hlocking : ∀ x ∈ look.calls answer s, x.call.isLocking = false := fun x hx => (hlook.mem x hx).1
  have hread : ∀ x ∈ look.calls answer s, x.call.isRead = true := fun x hx => (hlook.mem x hx).2
  rw [calls_bind]
  cases look.execute answer s with
  | mk outcome s₁ =>
    cases outcome with
    | error err =>
      rw [List.append_nil]
      exact lockedOnce_of_reads hlocking hread
    | ok b =>
      dsimp only
      rw [calls_locked]
      cases answer s₁ (.lock (Engine.lockKey (monitor b))) with
      | mk token s₂ =>
        cases token with
        | error err => exact lockedOnce_of_refused hlocking hread
        | ok token => exact lockedOnce_of_granted hlocking hread (hbody b).mem

/--
The lock is asked for under the key that the look has found.
-/
theorem lock_of_mem_calls (hlook : look.Looks) (hbody : ∀ b, (body b).Lockless) {key : String}
    {token : Except Error Token}
    (hmem : ⟨.lock key, token⟩ ∈ (look >>= fun b => Engine.locked (monitor b) (body b)).calls answer s) :
    ∃ b, (look.execute answer s).1 = .ok b ∧ key = Engine.lockKey (monitor b) := by
  have hnever : ∀ {calls : List Answered}, (∀ x ∈ calls, x.call.isLocking = false) → ⟨.lock key, token⟩ ∉ calls :=
    fun hcalls hmem => by cases hcalls _ hmem
  rw [calls_bind, List.mem_append] at hmem
  have hmem := hmem.resolve_left (hnever fun x hx => (hlook.mem x hx).1)
  cases hrun : look.execute answer s with
  | mk outcome s₁ =>
    rw [hrun] at hmem
    cases outcome with
    | error err => cases hmem
    | ok b =>
      refine ⟨b, rfl, ?_⟩
      dsimp only at hmem
      rw [calls_locked] at hmem
      cases hlock : answer s₁ (.lock (Engine.lockKey (monitor b))) with
      | mk granted s₂ =>
        rw [hlock] at hmem
        cases granted with
        | error err => exact Call.lock.inj (congrArg Answered.call (List.mem_singleton.1 hmem))
        | ok granted =>
          rcases List.mem_cons.1 hmem with heq | hmem
          . exact Call.lock.inj (congrArg Answered.call heq)
          rcases List.mem_append.1 hmem with hmem | hmem
          . exact absurd hmem (hnever (hbody b).mem)
          . cases List.mem_singleton.1 hmem

theorem outlasts_locked (hlook : look.Looks) (hbody : ∀ b, (body b).Lockless) :
    Outlasts answer (look >>= fun b => Engine.locked (monitor b) (body b)) s := by
  have hlock : ∀ (s : σ) key, answer.returning s (.lock key) = answer s (.lock key) := fun _ _ => rfl
  suffices h : ∀ own, ((look >>= fun b => Engine.locked (monitor b) (body b)).execute answer.returning s).1 = own →
      match own with
      | .error err => ((look >>= fun b => Engine.locked (monitor b) (body b)).execute answer s).1 = .error err
      | .ok a => ∃ token released,
          ⟨.release token, released⟩ ∈ (look >>= fun b => Engine.locked (monitor b) (body b)).calls answer s ∧
            ((look >>= fun b => Engine.locked (monitor b) (body b)).execute answer s).1 = released.map fun _ => a from
    ⟨fun err herr => h _ herr, fun a ha => h _ ha⟩
  rintro own rfl
  rw [execute_bind, execute_bind, calls_bind, hlook.lockless.execute_returning]
  cases look.execute answer s with
  | mk outcome s₁ =>
    cases outcome with
    | error err => rfl
    | ok b =>
      dsimp only
      rw [execute_locked, execute_locked, calls_locked, hlock]
      cases answer s₁ (.lock (Engine.lockKey (monitor b))) with
      | mk token s₂ =>
        cases token with
        | error err => rfl
        | ok token =>
          dsimp only
          rw [(hbody b).execute_returning]
          cases (body b).execute answer s₂ with
          | mk outcome s₃ =>
            cases outcome with
            | error err => rfl
            | ok a =>
              refine ⟨token, (answer s₃ (.release token)).1, by simp, ?_⟩
              cases (answer s₃ (.release token)).1 <;> rfl

end Operation

namespace Engine

open Operation

theorem looks_get (id : Uuid) : (get id).Looks := by
  unfold get
  apply confined_bind (confined_call ⟨rfl, rfl⟩)
  intro found
  cases found with
  | none => exact confined_throw _
  | some interval => exact confined_pure _

theorem looks_rootCause (e : Engine) (r : ChangeRequest) : (e.rootCause r).Looks := by
  unfold Engine.rootCause annotate
  cases r.rootCause with
  | some given => exact confined_pure _
  | none =>
    cases r.initiatingUser with
    | none => exact confined_pure _
    | some user =>
      cases e.directory with
      | false => exact confined_pure _
      | true =>
        apply confined_bind
        . exact confined_tryCatch (confined_call ⟨rfl, rfl⟩) fun _ => confined_pure _
        . intro answer
          cases answer <;> exact confined_pure _

theorem lockless_append (e : Engine) (new : NewInterval) (close : Option Uuid) : (e.append new close).Lockless := by
  unfold append
  cases e.compound with
  | whole => exact lockless_call rfl
  | stepwise =>
    unfold appendStepwise
    apply lockless_bind (lockless_call rfl)
    intro created
    cases close with
    | none => exact confined_pure _
    | some prior =>
      apply lockless_bind
      . apply confined_tryCatch (lockless_call rfl)
        intro err
        apply lockless_bind
        . exact confined_tryCatch (lockless_call rfl) fun _ => confined_pure _
        . exact fun _ => confined_throw _
      . exact fun _ => confined_pure _

theorem lockless_recordLocked (e : Engine) (monitor status : Uuid) (r : ChangeRequest) :
    (e.recordLocked monitor status r).Lockless := by
  rw [recordLocked_eq]
  apply lockless_bind (e.looks_rootCause r).lockless
  intro rootCause
  unfold succeed
  apply lockless_bind (lockless_call rfl)
  intro prior
  apply lockless_bind (e.lockless_append _ _)
  intro interval
  exact lockless_bind (lockless_call rfl) fun _ => confined_pure _

theorem deletes_applyDeletion (e : Engine) (plan : DeletionPlan) : (e.applyDeletion plan).Deletes := by
  unfold applyDeletion
  cases e.compound with
  | whole => exact deletes_call rfl
  | stepwise =>
    unfold applyDeletionStepwise
    cases plan.repair with
    | none => exact deletes_call rfl
    | some repair => exact confined_bind (deletes_call rfl) fun _ => deletes_call rfl

theorem deletes_settle (monitor : Uuid) : (settle monitor).Deletes := by
  unfold settle
  apply confined_bind (deletes_call rfl)
  intro latest
  cases latest with
  | none => exact confined_pure _
  | some latest => exact confined_bind (deletes_call rfl) fun _ => confined_pure _

theorem deletes_deleteLocked (e : Engine) (id : Uuid) : (e.deleteLocked id).Deletes := by
  rw [deleteLocked_eq]
  apply confined_bind (looks_get id).deletes
  intro target
  unfold cutOutOne
  apply confined_bind (deletes_call rfl)
  intro count
  split
  . exact confined_throw _
  . unfold cutOut
    apply confined_bind (deletes_call rfl)
    intro neighbors
    apply confined_bind (e.deletes_applyDeletion _)
    intro _
    exact confined_bind (deletes_settle _) fun _ => confined_pure _

theorem lockless_deleteLocked (e : Engine) (id : Uuid) : (e.deleteLocked id).Lockless :=
  (e.deletes_deleteLocked id).lockless

end Engine

namespace Request

/--
What keeps a request from being looked at any further.
-/
def flaw? : Request → Option Refusal
  | record r =>
    if r.monitorId.isNone then some .missingMonitor else if r.statusId.isNone then some .missingStatus else none
  | _ => none

/--
The monitor that a request is about: it is named, or the interval is its that the first call has found.
-/
def Concerns : Request → List Answered → Uuid → Prop
  | record r, _, monitor => r.monitorId = some monitor
  | delete id, calls, monitor =>
    ∃ i : Interval, calls.head? = some ⟨.store (.findById id), .ok (some i)⟩ ∧ i.monitorId = monitor
  | _, _, _ => False

/--
How a writing request deals with locks, whoever answers its calls.
-/
structure Disciplined {σ : Type} (e : Engine) (r : Request) (answer : Answering σ) (s : σ) : Prop where
  locked : LockedOnce ((r.operation e).calls answer s)
  named : ∀ key token, ⟨.lock key, token⟩ ∈ (r.operation e).calls answer s →
    ∃ monitor, r.Concerns ((r.operation e).calls answer s) monitor ∧ key = monitor.text
  outlasts : Operation.Outlasts answer (r.operation e) s
  refused : ∀ why, r.flaw? = some why →
    (r.operation e).calls answer s = [] ∧ (r.operation e).execute answer s = (.error (.validation why), s)

variable {σ : Type} {e : Engine} {answer : Answering σ} {s : σ}

open Operation

theorem disciplined_of_locked {β : Type} {r : Request} {look : Operation β} {monitor : β → Uuid}
    {body : β → Operation r.Answer} (heq : r.operation e = look >>= fun b => Engine.locked (monitor b) (body b))
    (hlook : look.Looks) (hbody : ∀ b, (body b).Lockless) (hflaw : r.flaw? = none)
    (hconcerns : ∀ b, (look.execute answer s).1 = .ok b → r.Concerns ((r.operation e).calls answer s) (monitor b)) :
    Disciplined e r answer s where
  locked := by rw [heq]; exact lockedOnce_locked hlook hbody
  named := by
    intro key token hmem
    rw [heq] at hmem
    obtain ⟨b, hb, hkey⟩ := lock_of_mem_calls hlook hbody hmem
    exact ⟨monitor b, hconcerns b hb, hkey⟩
  outlasts := by rw [heq]; exact outlasts_locked hlook hbody
  refused := by simp [hflaw]

theorem disciplined_of_throw {r : Request} {why : Refusal} (heq : r.operation e = throw (.validation why))
    (hflaw : r.flaw? = some why) : Disciplined e r answer s := by
  have hcalls : (r.operation e).calls answer s = [] := by rw [heq]; rfl
  have hexecute : ∀ answer : Answering σ, (r.operation e).execute answer s = (.error (.validation why), s) := by
    intro answer
    rw [heq]
    rfl
  constructor
  . rw [hcalls]
    exact lockedOnce_of_reads (by simp) (by simp)
  . simp [hcalls]
  . constructor <;> simp [hexecute]
  . intro why' hwhy
    cases hflaw.symm.trans hwhy
    exact ⟨hcalls, hexecute answer⟩

theorem disciplined_record (r : ChangeRequest) : Disciplined e (.record r) answer s := by
  cases hmonitor : r.monitorId with
  | none =>
    have heq : (Request.record r).operation e = throw (.validation .missingMonitor) := by
      simp only [operation, Engine.record, hmonitor]
    exact disciplined_of_throw heq (by simp [flaw?, hmonitor])
  | some monitor =>
    cases hstatus : r.statusId with
    | none =>
      have heq : (Request.record r).operation e = throw (.validation .missingStatus) := by
        simp only [operation, Engine.record, hmonitor, hstatus]
      exact disciplined_of_throw heq (by simp [flaw?, hmonitor, hstatus])
    | some status =>
      have heq : (Request.record r).operation e =
          (pure () : Operation Unit) >>= fun _ => Engine.locked monitor (e.recordLocked monitor status r) := by
        simp only [operation, Engine.record, hmonitor, hstatus]
        exact (pure_bind ..).symm
      apply disciplined_of_locked heq (confined_pure ())
      . exact fun _ => e.lockless_recordLocked monitor status r
      . simp [flaw?, hmonitor, hstatus]
      . exact fun _ _ => hmonitor

/--
A search for an interval makes one call, and finds what that is answered.
-/
theorem calls_get (id : Uuid) {target : Interval} (hget : ((Engine.get id).execute answer s).1 = .ok target) :
    calls answer (Engine.get id) s = [⟨.store (.findById id), .ok (some target)⟩] := by
  have hone : calls answer (StoreCall.findById id).perform s =
      [⟨.store (.findById id), (answer s (.store (.findById id))).1⟩] := rfl
  have hexecute : execute answer (StoreCall.findById id).perform s = answer s (.store (.findById id)) := rfl
  unfold Engine.get at hget ⊢
  rw [execute_bind, hexecute] at hget
  rw [calls_bind, hone, hexecute]
  cases hfind : answer s (.store (.findById id)) with
  | mk found s₁ =>
    rw [hfind] at hget
    cases found with
    | error err => cases hget
    | ok found =>
      cases found with
      | none => cases hget
      | some i =>
        cases hget
        rfl

theorem disciplined_delete (id : Uuid) : Disciplined e (.delete id) answer s := by
  have heq : (Request.delete id).operation e =
      Engine.get id >>= fun target => Engine.locked target.monitorId (e.deleteLocked id) := rfl
  apply disciplined_of_locked heq (Engine.looks_get id) (fun _ => e.lockless_deleteLocked id) rfl
  intro target hget
  refine ⟨target, ?_, rfl⟩
  show List.head? (calls answer (Engine.get id >>= _) s) = _
  rw [calls_bind, calls_get id hget]
  rfl

end Request

end StatusTimeline
