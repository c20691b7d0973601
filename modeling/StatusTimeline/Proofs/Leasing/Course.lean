import StatusTimeline.Proofs.Engine.Stages
import StatusTimeline.Store.Table

/-!
This module contains the course that recording takes: under a lock the latest interval is looked up, and the next call
to the store appends in place of that one. Then the lock is given back.
-/

namespace StatusTimeline

namespace Leasing

/--
How far a client has come that records: it has no lock, it has one, or it has just looked the latest interval up under
it and is to close that one.
-/
inductive Stage where
  | outside
  | inside (token : Token)
  | looked (token : Token) (close : Option Uuid)

/--
From a stage a program goes on by the course, and `Q` holds of its result and the stage at its end.
-/
def Follows (monitor : Uuid) (Q : α → Stage → Prop) : Program α → Stage → Prop
  | .done a, stage => Q a stage
  | .call (.lock key) next, stage =>
    stage = .outside ∧ key = Engine.lockKey monitor ∧
      (∀ token, Follows monitor Q (next (.ok token)) (.inside token)) ∧
      ∀ err, Follows monitor Q (next (.error err)) .outside
  | .call (.release token) next, stage =>
    stage = .inside token ∧ ∀ answer, Follows monitor Q (next answer) .outside
  | .call (.store (.findLatest m)) next, stage =>
    m = monitor ∧ ∃ token, stage = .inside token ∧
      (∀ latest, Follows monitor Q (next (.ok latest)) (.looked token (latest.map (·.id)))) ∧
      ∀ err, Follows monitor Q (next (.error err)) (.inside token)
  | .call (.store (.append new close)) next, stage =>
    new.monitorId = monitor ∧ ∃ token, stage = .looked token close ∧
      ∀ answer, Follows monitor Q (next answer) (.inside token)
  | .call (.setPointer _) next, stage => ∀ answer, Follows monitor Q (next answer) stage
  | .call (.resolve _) next, stage => ∀ answer, Follows monitor Q (next answer) stage
  | .call (.store _) _, _ => False

variable {monitor : Uuid} {α β : Type} {Q : α → Stage → Prop} {R : β → Stage → Prop}

theorem Follows.bind {p : Program α} {f : α → Program β} {stage : Stage} (h : Follows monitor Q p stage)
    (hf : ∀ a stage, Q a stage → Follows monitor R (f a) stage) :
    Follows monitor R (p.bind f) stage := by
  induction p generalizing stage with
  | done a => exact hf a stage h
  | call c next ih =>
    cases c with
    | lock key => exact ⟨h.1, h.2.1, fun token => ih _ (h.2.2.1 token), fun err => ih _ (h.2.2.2 err)⟩
    | release token => exact ⟨h.1, fun answer => ih _ (h.2 answer)⟩
    | setPointer update => exact fun answer => ih answer (h answer)
    | resolve user => exact fun answer => ih answer (h answer)
    | store c =>
      cases c with
      | findLatest m =>
        obtain ⟨hm, token, hstage, hok, herror⟩ := h
        exact ⟨hm, token, hstage, fun latest => ih _ (hok latest), fun err => ih _ (herror err)⟩
      | append new close =>
        obtain ⟨hm, token, hstage, hnext⟩ := h
        exact ⟨hm, token, hstage, fun answer => ih answer (hnext answer)⟩
      | _ => exact h

/--
A root cause is found without a call that the course is about.
-/
theorem follows_rootCause (e : Engine) (r : ChangeRequest) (stage : Stage) :
    Follows monitor (fun _ s => s = stage) (e.rootCause r).run stage := by
  unfold Engine.rootCause
  cases r.rootCause with
  | some given => exact rfl
  | none =>
    unfold Engine.annotate
    cases r.initiatingUser with
    | none => exact rfl
    | some user =>
      cases e.directory with
      | false => exact rfl
      | true =>
        intro answer
        cases answer with
        | error err => exact rfl
        | ok lookup => cases lookup <;> exact rfl

theorem follows_succeed {e : Engine} (he : e.compound = .whole) (new : NewInterval) (token : Token) :
    Follows new.monitorId (fun _ s => s = .inside token) (e.succeed new).run (.inside token) := by
  unfold Engine.succeed Engine.append
  rw [he]
  refine ⟨rfl, token, rfl, ?_, fun _ => rfl⟩
  intro latest
  refine ⟨rfl, token, rfl, ?_⟩
  intro appended
  cases appended with
  | error err => exact rfl
  | ok created =>
    intro answer
    cases answer <;> exact rfl

theorem follows_recordLocked {e : Engine} (he : e.compound = .whole) (status : Uuid) (r : ChangeRequest)
    (token : Token) : Follows monitor (fun _ s => s = .inside token)
      (e.recordLocked monitor status r).run (.inside token) := by
  rw [Engine.recordLocked_eq]
  apply Follows.bind (follows_rootCause e r (.inside token))
  intro outcome stage hstage
  rw [hstage]
  cases outcome with
  | error err => exact rfl
  | ok rootCause => exact follows_succeed he (Engine.opening monitor status r rootCause) token

/--
Whoever records takes the course for some monitor and has no lock at its end.
-/
theorem follows_record {e : Engine} (he : e.compound = .whole) (r : ChangeRequest) :
    ∃ monitor, Follows monitor (fun _ s => s = .outside) (e.record r).run .outside := by
  unfold Engine.record
  cases r.monitorId with
  | none => exact ⟨default, rfl⟩
  | some monitor =>
    refine ⟨monitor, ?_⟩
    cases r.statusId with
    | none => exact rfl
    | some status =>
      refine ⟨rfl, rfl, ?_, fun _ => rfl⟩
      intro token
      apply Follows.bind (follows_recordLocked he status r token)
      intro outcome stage hstage
      refine ⟨hstage, ?_⟩
      intro released
      cases outcome <;> cases released <;> exact rfl

end Leasing

end StatusTimeline
