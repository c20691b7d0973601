import StatusTimeline.Proofs.Engine.Calls
import StatusTimeline.Proofs.Engine.Runs
import StatusTimeline.Proofs.Engine.Stages

/-!
This module contains what a directory of users adds to a record: a text, and nothing but a text. The record comes to
what it would have come to without a directory, had the request given the text itself, and collaborators that do not
heed root causes answer alike whatever the text is.
-/

namespace StatusTimeline

variable {σ α β γ δ : Type}

/--
How searches for users are answered, if there is a directory at all.
-/
abbrev Advice := Option (Uuid → Except Error Lookup)

namespace Advice

def engine (d : Advice) (compound : Compound) : Engine := { compound, directory := d.isSome }

/--
The directory answers searches for users, the other collaborators the rest.
-/
def answering (d : Advice) (answer : Answering σ) : Answering σ :=
  match d with
  | none => answer
  | some resolve => fun s c =>
    match c with
    | .resolve user => (resolve user, s)
    | c => answer s c

/--
The user that is found. A search that fails or takes too long finds nobody.
-/
def actor? (d : Advice) (user : Uuid) : Option Actor := do
  let resolve ← d
  match resolve user with
  | .ok (.found actor) => some actor
  | .ok .unknown => none
  | .ok .timedOut => none
  | .error _ => none

/--
The root cause of what is recorded: the one that is given, else the text of the initiating user.
-/
def rootCause (d : Advice) (r : ChangeRequest) : Option String :=
  match r.rootCause with
  | some given => some given
  | none => do
    let user ← r.initiatingUser
    let actor ← d.actor? user
    return actor.rootCause

/--
Whether the directory finds a user. A search that fails or takes too long does not.
-/
def Finds (d : Advice) (user : Uuid) (actor : Actor) : Prop :=
  ∃ resolve, d = some resolve ∧ resolve user = .ok (.found actor)

/--
The user whose text is asked for: the caller, or the creator when there is no caller.
-/
def Asks (r : ChangeRequest) (user : Uuid) : Prop := r.actor = some user ∨ r.actor = none ∧ r.createdBy = some user

/--
What a record is to store as its root cause, as it reads.
-/
inductive Causes (d : Advice) (r : ChangeRequest) : Option String → Prop where
  | given {text : String} (h : r.rootCause = some text) : Causes d r (some text)
  | found {user : Uuid} {actor : Actor} (h : r.rootCause = none) (huser : Asks r user) (hfound : d.Finds user actor) :
      Causes d r (some ("Monitor status created by " ++ actor.name ++ " (" ++ actor.email ++ ")"))
  | nobody (h : r.rootCause = none) (hnobody : ∀ user, Asks r user → ∀ actor, ¬ d.Finds user actor) : Causes d r none

/--
The record of a request by an engine that has the directory, if there is one.
-/
def record (d : Advice) (compound : Compound) (answer : Answering σ) (r : ChangeRequest) (s : σ) :
    Except Error StatusChange × σ :=
  ((d.engine compound).record r).execute (d.answering answer) s

/--
The request with its root cause found out.
-/
def settled (d : Advice) (r : ChangeRequest) : ChangeRequest := { r with rootCause := d.rootCause r }

variable (d : Advice) (answer : Answering σ)

theorem finds_iff {user : Uuid} {actor : Actor} : d.Finds user actor ↔ d.actor? user = some actor := by
  cases d with
  | none => simp [Finds, actor?]
  | some resolve =>
    cases hfound : resolve user with
    | error err => simp [Finds, actor?, hfound]
    | ok found => cases found <;> simp [Finds, actor?, hfound]

theorem asks_iff {r : ChangeRequest} {user : Uuid} : Asks r user ↔ r.initiatingUser = some user := by
  unfold Asks ChangeRequest.initiatingUser
  cases r.actor <;> simp

theorem causes_rootCause (r : ChangeRequest) : d.Causes r (d.rootCause r) := by
  unfold rootCause
  cases hgiven : r.rootCause with
  | some given => exact .given hgiven
  | none =>
    cases huser : r.initiatingUser with
    | none =>
      refine .nobody hgiven ?_
      intro user hasks
      rw [asks_iff, huser] at hasks
      cases hasks
    | some user =>
      cases hactor : d.actor? user with
      | none =>
        simp only [hactor, Option.bind_eq_bind, Option.bind_some, Option.bind_none]
        refine .nobody hgiven ?_
        intro user' hasks actor hfinds
        rw [asks_iff, huser, Option.some.injEq] at hasks
        rw [finds_iff, ← hasks, hactor] at hfinds
        cases hfinds
      | some actor =>
        simp only [hactor, Option.bind_eq_bind, Option.bind_some]
        exact .found hgiven (asks_iff.2 huser) (d.finds_iff.2 hactor)

theorem answering_of_not_lookup (s : σ) {c : Call} (h : c.isLookup = false) :
    d.answering answer s c = answer s c := by
  unfold answering
  cases d with
  | none => rfl
  | some resolve => cases c <;> first | rfl | cases h

theorem execute_rootCause (compound : Compound) (r : ChangeRequest) (s : σ) :
    ((d.engine compound).rootCause r).execute (d.answering answer) s = (.ok (d.rootCause r), s) := by
  unfold Engine.rootCause rootCause
  cases r.rootCause with
  | some given => rfl
  | none =>
    unfold Engine.annotate
    cases r.initiatingUser with
    | none => rfl
    | some user =>
      cases d with
      | none => rfl
      | some resolve =>
        simp only [engine, Option.isSome_some, Bool.not_true, Bool.false_eq_true, if_false]
        rw [Operation.execute_bind, Operation.execute_tryCatch, Operation.execute_call]
        simp only [answering, actor?]
        cases hfound : resolve user with
        | error err => simp [hfound, Operation.execute]; rfl
        | ok found => cases found <;> simp [hfound] <;> rfl

end Advice

namespace Call

/--
The calls of a record that knows its root cause, with what it stores.
-/
def Opens (cause : Option String) (creator : Option Uuid) : Call → Prop
  | store (.findLatest _) => True
  | store (.insert new) => new.rootCause = cause ∧ new.createdBy = creator
  | store (.append new _) => new.rootCause = cause ∧ new.createdBy = creator
  | store (.updateEndsAt _ _) => True
  | store (.delete _) => True
  | setPointer _ => True
  | lock _ => True
  | release _ => True
  | _ => False

theorem Opens.isLookup {cause : Option String} {creator : Option Uuid} {c : Call} (h : c.Opens cause creator) :
    c.isLookup = false := by
  cases c <;> first | rfl | cases h

end Call

namespace Engine

open Operation

/--
Without a directory the root cause is the one that is given.
-/
theorem recordLocked_given (compound : Compound) (monitor status : Uuid) (r : ChangeRequest) :
    recordLocked { compound } monitor status r =
      succeed { compound } (opening monitor status r r.rootCause) := by
  have hgiven : Engine.rootCause { compound } r = pure r.rootCause := by
    unfold Engine.rootCause
    cases r.rootCause with
    | some given => rfl
    | none =>
      unfold annotate
      cases r.initiatingUser <;> rfl
  rw [recordLocked_eq, hgiven]
  rfl

theorem opens_append (e : Engine) (new : NewInterval) (close : Option Uuid) :
    (e.append new close).Confined (Call.Opens new.rootCause new.createdBy) := by
  unfold append
  cases e.compound with
  | whole => exact confined_call ⟨rfl, rfl⟩
  | stepwise =>
    apply confined_bind
    . exact confined_call ⟨rfl, rfl⟩
    intro created
    cases close with
    | none => exact confined_pure _
    | some prior =>
      apply confined_bind
      . apply confined_tryCatch
        . exact confined_call trivial
        intro err
        apply confined_bind
        . exact confined_tryCatch (confined_call trivial) fun _ => confined_pure _
        . exact fun _ => confined_throw _
      . exact fun _ => confined_pure _

theorem opens_succeed (e : Engine) (new : NewInterval) :
    (e.succeed new).Confined (Call.Opens new.rootCause new.createdBy) := by
  apply confined_bind
  . exact confined_call trivial
  intro prior
  apply confined_bind (e.opens_append _ _)
  intro interval
  apply confined_bind
  . exact confined_call trivial
  . exact fun _ => confined_pure _

end Engine

namespace Advice

/--
A record with a directory comes to what it comes to without one when the request gives the text itself.
-/
theorem execute_record (d : Advice) (answer : Answering σ) (compound : Compound) (r : ChangeRequest) (s : σ) :
    d.record compound answer r s = (Engine.record { compound } (d.settled r)).execute answer s := by
  have hbody : ∀ monitor status s, ((d.engine compound).recordLocked monitor status r).execute (d.answering answer) s =
      (Engine.recordLocked { compound } monitor status (d.settled r)).execute answer s := by
    intro monitor status s
    rw [Engine.recordLocked_given, Engine.recordLocked_eq, Operation.execute_bind, execute_rootCause]
    apply (Engine.opens_succeed _ _).execute_congr
    intro s c hc
    exact d.answering_of_not_lookup answer s hc.isLookup
  unfold record Engine.record
  have hmonitor : (d.settled r).monitorId = r.monitorId := rfl
  have hstatus : (d.settled r).statusId = r.statusId := rfl
  rw [hmonitor, hstatus]
  cases r.monitorId with
  | none => rfl
  | some monitor =>
    cases r.statusId with
    | none => rfl
    | some status =>
      dsimp only
      rw [Operation.execute_locked, Operation.execute_locked, d.answering_of_not_lookup answer s rfl]
      simp only [hbody, d.answering_of_not_lookup answer _ (c := .release _) rfl]

end Advice

namespace Operation

variable {answer : Answering σ} {bare : σ → σ} {f : α → β} {s : σ}

/--
Whether an operation comes to the same as another one does in the bare state, but for what is bared.
-/
def Bares (answer : Answering σ) (bare : σ → σ) (f : α → β) (x : Operation α) (y : Operation β) (s : σ) : Prop :=
  y.execute answer (bare s) = ((x.execute answer s).1.map f, bare (x.execute answer s).2)

theorem bares_pure {a : α} {b : β} (h : b = f a) : Bares answer bare f (pure a) (pure b) s := by
  rw [h]
  rfl

theorem bares_throw (e : Error) : Bares answer bare f (throw e) (throw e) s := rfl

theorem bares_bind {g : γ → δ} {x : Operation α} {y : Operation β} {h : α → Operation γ} {k : β → Operation δ}
    (hx : Bares answer bare f x y s) (hnext : ∀ a s, Bares answer bare g (h a) (k (f a)) s) :
    Bares answer bare g (x >>= h) (y >>= k) s := by
  unfold Bares at hx hnext ⊢
  rw [execute_bind, execute_bind, hx]
  cases x.execute answer s with
  | mk outcome s =>
    cases outcome with
    | ok a => exact hnext a s
    | error e => rfl

theorem bares_tryCatch {x : Operation α} {y : Operation β} {h : Error → Operation α} {k : Error → Operation β}
    (hx : Bares answer bare f x y s) (hcatch : ∀ e s, Bares answer bare f (h e) (k e) s) :
    Bares answer bare f (tryCatch x h) (tryCatch y k) s := by
  unfold Bares at hx hcatch ⊢
  rw [execute_tryCatch, execute_tryCatch, hx]
  cases x.execute answer s with
  | mk outcome s =>
    cases outcome with
    | ok a => rfl
    | error e => exact hcatch e s

theorem bares_locked {x : Operation α} {y : Operation β} {monitor : Uuid}
    (hlock : ∀ s key, answer (bare s) (.lock key) = ((answer s (.lock key)).1, bare (answer s (.lock key)).2))
    (hrelease : ∀ s token, answer (bare s) (.release token) =
      ((answer s (.release token)).1, bare (answer s (.release token)).2))
    (h : ∀ s, Bares answer bare f x y s) :
    Bares answer bare f (Engine.locked monitor x) (Engine.locked monitor y) s := by
  unfold Bares at h ⊢
  rw [execute_locked, execute_locked, hlock]
  cases answer s (.lock (Engine.lockKey monitor)) with
  | mk token s =>
    cases token with
    | error e => rfl
    | ok token =>
      dsimp only
      rw [h, hrelease]
      cases x.execute answer s with
      | mk outcome s =>
        dsimp only
        cases outcome with
        | error e => rfl
        | ok a => cases (answer s (.release token)).1 <;> rfl

end Operation

def Interval.bare (id : Uuid) (i : Interval) : Interval := if i.id = id then { i with rootCause := none } else i

def NewInterval.bare (new : NewInterval) : NewInterval := { new with rootCause := none }

def StatusChange.bare (id : Uuid) (c : StatusChange) : StatusChange := { c with interval := c.interval.bare id }

def ChangeRequest.bare (r : ChangeRequest) : ChangeRequest := { r with rootCause := none }

namespace Interval

variable (id : Uuid) (i : Interval)

theorem bare_id : (i.bare id).id = i.id := by
  unfold bare
  split <;> rfl

theorem bare_statusId : (i.bare id).statusId = i.statusId := by
  unfold bare
  split <;> rfl

theorem bare_createdAt : (i.bare id).createdAt = i.createdAt := by
  unfold bare
  split <;> rfl

end Interval

/--
Whether neither a call nor its answer tells of root causes.
-/
def Call.isCauseless : Call → Bool
  | store (.updateEndsAt _ _) => true
  | store (.delete _) => true
  | setPointer _ => true
  | lock _ => true
  | release _ => true
  | _ => false

/--
Collaborators that answer the calls of a record alike whatever the root cause of the interval `id` is.
-/
structure Heedless (answer : Answering σ) (bare : σ → σ) (id : Uuid) (storable : Option String → Prop) : Prop where
  causeless : ∀ s c, c.isCauseless = true → answer (bare s) c = ((answer s c).1, bare (answer s c).2)
  findLatest : ∀ s monitor, Operation.Bares answer bare (Option.map (Interval.bare id))
    (StoreCall.findLatest monitor).perform (StoreCall.findLatest monitor).perform s
  insert : ∀ s new, storable new.rootCause → Operation.Bares answer bare (Interval.bare id)
    (StoreCall.insert new).perform (StoreCall.insert new.bare).perform s
  append : ∀ s new close, storable new.rootCause → Operation.Bares answer bare (Interval.bare id)
    (StoreCall.append new close).perform (StoreCall.append new.bare close).perform s

namespace Heedless

open Operation

variable {answer : Answering σ} {bare : σ → σ} {id : Uuid} {storable : Option String → Prop}

theorem call (h : Heedless answer bare id storable) {c : Call} (hc : c.isCauseless = true) (s : σ) :
    Bares answer bare (fun a => a) c.perform c.perform s := by
  unfold Bares
  rw [execute_call, execute_call, h.causeless s c hc]
  cases (answer s c).1 <;> rfl

theorem append_bare (h : Heedless answer bare id storable) (e : Engine) {new : NewInterval}
    (hnew : storable new.rootCause) (close : Option Uuid) (s : σ) :
    Bares answer bare (Interval.bare id) (e.append new close) (e.append new.bare close) s := by
  unfold Engine.append
  cases e.compound with
  | whole => exact h.append s new close hnew
  | stepwise =>
    apply bares_bind (h.insert s new hnew)
    intro created s
    cases close with
    | none => exact bares_pure rfl
    | some prior =>
      dsimp only
      rw [Interval.bare_createdAt, Interval.bare_id]
      apply bares_bind
      . apply bares_tryCatch (h.call rfl s)
        intro err s
        apply bares_bind
        . apply bares_tryCatch (h.call rfl s)
          exact fun _ _ => bares_pure rfl
        . exact fun _ _ => bares_throw err
      . exact fun _ _ => bares_pure rfl

theorem succeed (h : Heedless answer bare id storable) (e : Engine) {new : NewInterval}
    (hnew : storable new.rootCause) (s : σ) :
    Bares answer bare (StatusChange.bare id) (e.succeed new) (e.succeed new.bare) s := by
  unfold Engine.succeed
  apply bares_bind (h.findLatest s new.monitorId)
  intro prior s
  have hprior : (prior.map (Interval.bare id)).map (·.id) = prior.map (·.id) := by
    rw [Option.map_map]
    congr 1
    funext i
    exact Interval.bare_id id i
  rw [hprior]
  apply bares_bind (h.append_bare e hnew _ s)
  intro interval s
  rw [Interval.bare_statusId]
  apply bares_bind (h.call rfl s)
  intro _ s
  exact bares_pure rfl

/--
The record of a request does what the record of the same request without a root cause does.
-/
theorem record (h : Heedless answer bare id storable) (compound : Compound) {r : ChangeRequest}
    (hr : storable r.rootCause) (s : σ) :
    Bares answer bare (StatusChange.bare id) (Engine.record { compound } r) (Engine.record { compound } r.bare) s := by
  unfold Engine.record
  have hmonitor : r.bare.monitorId = r.monitorId := rfl
  have hstatus : r.bare.statusId = r.statusId := rfl
  rw [hmonitor, hstatus]
  cases r.monitorId with
  | none => rfl
  | some monitor =>
    cases r.statusId with
    | none => rfl
    | some status =>
      apply bares_locked
      . exact fun s key => h.causeless s _ rfl
      . exact fun s token => h.causeless s _ rfl
      intro s
      rw [Engine.recordLocked_given, Engine.recordLocked_given]
      exact h.succeed _ hr s

end Heedless

/--
What is kept of a request in the interval `id`: its root cause and its creator.
-/
structure Interval.Notes (id : Uuid) (cause : Option String) (creator : Option Uuid) (i : Interval) : Prop where
  id : i.id = id
  rootCause : i.rootCause = cause
  createdBy : i.createdBy = creator

/--
Whether the interval `id` keeps a root cause and a creator wherever it is found.
-/
def Interval.Noted (id : Uuid) (cause : Option String) (creator : Option Uuid) (is : List Interval) : Prop :=
  ∀ i ∈ is, i.id = id → i.Notes id cause creator

namespace Interval.Noted

variable {id : Uuid} {cause : Option String} {creator : Option Uuid} {is : List Interval}

theorem concat (h : Noted id cause creator is) {i : Interval} (hi : i.Notes id cause creator) :
    Noted id cause creator (is ++ [i]) := by
  intro j hj
  rcases List.mem_append.1 hj with hj | hj
  . exact h j hj
  . rw [List.mem_singleton.1 hj]
    exact fun _ => hi

theorem map_endAt (h : Noted id cause creator is) (j : Uuid) (e : Option Instant) :
    Noted id cause creator (is.map (endAt j e)) := by
  intro i hi hid
  obtain ⟨i₀, hi₀, rfl⟩ := List.mem_map.1 hi
  rw [endAt_id] at hid
  have hnotes := h i₀ hi₀ hid
  unfold endAt
  split <;> exact ⟨hnotes.id, hnotes.rootCause, hnotes.createdBy⟩

theorem filter (h : Noted id cause creator is) (p : Interval → Bool) : Noted id cause creator (is.filter p) :=
  fun i hi => h i (List.mem_filter.1 hi).1

end Interval.Noted

theorem Interval.holds_endAt {is : List Interval} {id : Uuid} (h : ∃ i ∈ is, i.id = id) (j : Uuid)
    (e : Option Instant) : ∃ i ∈ is.map (Interval.endAt j e), i.id = id := by
  obtain ⟨i, hi, hid⟩ := h
  exact ⟨_, List.mem_map_of_mem hi, (Interval.endAt_id _ _ _).trans hid⟩

/--
Whether an interval that is made is stored, with its root cause and its creator.
-/
def Notes (intervals : σ → List Interval) (id : Uuid) (new : NewInterval) (outcome : Except Error Interval)
    (s : σ) : Prop :=
  ∀ i, outcome = .ok i → i.Notes id new.rootCause new.createdBy ∧ ∃ j ∈ intervals s, j.id = id

/--
Collaborators that store root causes and creators as they are given, in the interval `id`.
-/
structure Faithful (answer : Answering σ) (intervals : σ → List Interval) (id : Uuid) : Prop where
  stored : ∀ cause creator s c, c.Opens cause creator →
    Interval.Noted id cause creator (intervals s) → Interval.Noted id cause creator (intervals (answer s c).2)
  insert : ∀ s new, Operation.Ends answer (StoreCall.insert new).perform s (Notes intervals id new)
  append : ∀ s new close, Operation.Ends answer (StoreCall.append new close).perform s (Notes intervals id new)
  kept : ∀ s c, c.isCauseless = true → (∀ j, c ≠ .store (.delete j)) → (∃ i ∈ intervals s, i.id = id) →
    ∃ i ∈ intervals (answer s c).2, i.id = id

namespace Faithful

open Operation

variable {answer : Answering σ} {intervals : σ → List Interval} {id : Uuid} {s : σ}

theorem append_notes (h : Faithful answer intervals id) (e : Engine) (new : NewInterval) (close : Option Uuid) :
    Ends answer (e.append new close) s (Notes intervals id new) := by
  unfold Engine.append
  cases e.compound with
  | whole => exact h.append s new close
  | stepwise =>
    apply ends_bind
    apply (h.insert s new).mono
    intro outcome s hinsert
    cases outcome with
    | error err => exact hinsert
    | ok created =>
      obtain ⟨hnotes, hstored⟩ := hinsert created rfl
      cases close with
      | none => exact ends_pure hinsert
      | some prior =>
        apply ends_bind
        apply ends_tryCatch
        apply ends_answered
        intro outcome
        have hkept := h.kept s (.store (.updateEndsAt prior (some created.createdAt))) rfl nofun hstored
        cases outcome with
        | ok _ =>
          intro i hi
          cases hi
          exact ⟨hnotes, hkept⟩
        | error err =>
          -- whatever becomes of the removal, the append has failed
          apply ends_bind
          apply ends_any
          intro outcome s
          cases outcome <;> exact nofun

theorem succeed (h : Faithful answer intervals id) (e : Engine) (new : NewInterval) :
    Ends answer (e.succeed new) s fun outcome s' =>
      ∀ change, outcome = .ok change →
        change.interval.Notes id new.rootCause new.createdBy ∧ ∃ i ∈ intervals s', i.id = id := by
  unfold Engine.succeed
  apply ends_bind
  apply ends_answered
  intro prior
  cases prior with
  | error err => exact nofun
  | ok prior =>
    apply ends_bind
    apply (h.append_notes e new _).mono
    intro outcome s happend
    cases outcome with
    | error err => exact nofun
    | ok interval =>
      obtain ⟨hnotes, hstored⟩ := happend interval rfl
      apply ends_bind
      apply ends_answered
      intro outcome
      have hkept :=
        h.kept s (.setPointer { monitorId := new.monitorId, statusId := interval.statusId }) rfl nofun hstored
      cases outcome with
      | error err => exact nofun
      | ok _ =>
        intro change hchange
        cases hchange
        exact ⟨hnotes, hkept⟩

theorem record (h : Faithful answer intervals id) (compound : Compound) (r : ChangeRequest) :
    Ends answer (Engine.record { compound } r) s fun outcome s' =>
      ∀ change, outcome = .ok change →
        change.interval.Notes id r.rootCause r.createdBy ∧ ∃ i ∈ intervals s', i.id = id := by
  unfold Engine.record
  cases r.monitorId with
  | none => exact nofun
  | some monitor =>
    cases r.statusId with
    | none => exact nofun
    | some status =>
      dsimp only
      rw [Engine.recordLocked_given]
      unfold Engine.locked
      apply ends_bind
      apply ends_answered
      intro token
      cases token with
      | error err => exact nofun
      | ok token =>
        apply ends_finish
        apply (h.succeed _ _).mono
        intro outcome s hsucceed change hchange
        cases outcome with
        | error err => cases hchange
        | ok recorded =>
          obtain ⟨hnotes, hstored⟩ := hsucceed recorded rfl
          have hkept := h.kept s (.release token) rfl nofun hstored
          cases hreleased : (answer s (.release token)).1 with
          | error err =>
            rw [hreleased] at hchange
            cases hchange
          | ok _ =>
            rw [hreleased] at hchange
            cases hchange
            exact ⟨hnotes, hkept⟩

/--
Of the interval `id` nothing is ever stored but what the request tells.
-/
theorem stored_record (h : Faithful answer intervals id) (compound : Compound) (r : ChangeRequest)
    (hfresh : ∀ i ∈ intervals s, i.id ≠ id) :
    Interval.Noted id r.rootCause r.createdBy (intervals ((Engine.record { compound } r).execute answer s).2) := by
  have hconfined : (Engine.record { compound } r).Confined (Call.Opens r.rootCause r.createdBy) := by
    unfold Engine.record
    cases r.monitorId with
    | none => exact confined_throw _
    | some monitor =>
      cases r.statusId with
      | none => exact confined_throw _
      | some status =>
        apply confined_locked
        . exact trivial
        . exact fun _ => trivial
        . rw [Engine.recordLocked_given]
          exact Engine.opens_succeed _ _
  apply Program.Confined.run_induction (I := fun s => Interval.Noted id r.rootCause r.createdBy (intervals s)) hconfined
  . exact fun s c hc hnoted => h.stored _ _ s c hc hnoted
  . exact fun i hi hid => absurd hid (hfresh i hi)

end Faithful

/--
Let calls fail by their numbers, without asking the collaborators.
-/
def Answering.faulty (answer : Answering σ) (faults : Nat → Option Error) : Answering (σ × Nat) := fun s c =>
  match faults s.2 with
  | some e => (.error e, s.1, s.2 + 1)
  | none => ((answer s.1 c).1, (answer s.1 c).2, s.2 + 1)

theorem Operation.bares_faulty {answer : Answering σ} {bare : σ → σ} (c c' : Call) {f : c.Answer → c'.Answer}
    (faults : Nat → Option Error) (s : σ × Nat) (h : Bares answer bare f c.perform c'.perform s.1) :
    Bares (answer.faulty faults) (Prod.map bare fun n => n) f c.perform c'.perform s := by
  unfold Bares at h ⊢
  rw [execute_call, execute_call] at h ⊢
  unfold Answering.faulty
  dsimp only [Prod.map]
  cases faults s.2 with
  | some e => rfl
  | none => rw [h]

theorem Heedless.faulty {answer : Answering σ} {bare : σ → σ} {id : Uuid} {storable : Option String → Prop}
    (h : Heedless answer bare id storable) (faults : Nat → Option Error) :
    Heedless (answer.faulty faults) (Prod.map bare fun n => n) id storable where
  causeless s c hc := by
    unfold Answering.faulty
    dsimp only [Prod.map]
    cases faults s.2 with
    | some e => rfl
    | none => rw [h.causeless s.1 c hc]
  findLatest s monitor :=
    Operation.bares_faulty (.store (.findLatest monitor)) (.store (.findLatest monitor)) faults s
      (h.findLatest s.1 monitor)
  insert s new hnew :=
    Operation.bares_faulty (.store (.insert new)) (.store (.insert new.bare)) faults s (h.insert s.1 new hnew)
  append s new close hnew :=
    Operation.bares_faulty (.store (.append new close)) (.store (.append new.bare close)) faults s
      (h.append s.1 new close hnew)

theorem Faithful.faulty {answer : Answering σ} {intervals : σ → List Interval} {id : Uuid}
    (h : Faithful answer intervals id) (faults : Nat → Option Error) :
    Faithful (answer.faulty faults) (fun s => intervals s.1) id where
  stored cause creator s c hc hs := by
    unfold Answering.faulty
    cases faults s.2 with
    | some e => exact hs
    | none => exact h.stored cause creator s.1 c hc hs
  insert s new := by
    show Notes (fun s => intervals s.1) id new (answer.faulty faults s (.store (.insert new))).1
      (answer.faulty faults s (.store (.insert new))).2
    unfold Answering.faulty
    cases faults s.2 with
    | some e => exact nofun
    | none => exact h.insert s.1 new
  append s new close := by
    show Notes (fun s => intervals s.1) id new (answer.faulty faults s (.store (.append new close))).1
      (answer.faulty faults s (.store (.append new close))).2
    unfold Answering.faulty
    cases faults s.2 with
    | some e => exact nofun
    | none => exact h.append s.1 new close
  kept s c hc hdelete hs := by
    unfold Answering.faulty
    cases faults s.2 with
    | some e => exact hs
    | none => exact h.kept s.1 c hc hdelete hs

/--
What a record with one directory has in common with the record with another one: it is answered alike and leaves the
same behind, but for the root cause of the interval `id`. That is the one that is given, else what the directory tells.
-/
structure Annotates (bare : σ → σ) (intervals : σ → List Interval) (id : Uuid) (r : ChangeRequest) (d : Advice)
    (ended ended' : Except Error StatusChange × σ) : Prop where
  outcome : ended.1.map (StatusChange.bare id) = ended'.1.map (StatusChange.bare id)
  state : bare ended.2 = bare ended'.2
  stored : Interval.Noted id (d.rootCause r) r.createdBy (intervals ended.2)
  told : ∀ change, ended.1 = .ok change →
    change.interval.Notes id (d.rootCause r) r.createdBy ∧ ∃ i ∈ intervals ended.2, i.id = id

/--
With collaborators that store what they are told, records that come to the same come to what is annotated.
-/
theorem Faithful.annotates {answer : Answering σ} {intervals : σ → List Interval} {id : Uuid}
    (hf : Faithful answer intervals id) {bare : σ → σ} (compound : Compound) (r : ChangeRequest) (d d' : Advice) {s : σ}
    (hfresh : ∀ i ∈ intervals s, i.id ≠ id)
    (houtcome : (d.record compound answer r s).1.map (StatusChange.bare id) =
      (d'.record compound answer r s).1.map (StatusChange.bare id))
    (hstate : bare (d.record compound answer r s).2 = bare (d'.record compound answer r s).2) :
    Annotates bare intervals id r d (d.record compound answer r s) (d'.record compound answer r s) where
  outcome := houtcome
  state := hstate
  stored := by
    rw [d.execute_record]
    exact hf.stored_record compound (d.settled r) hfresh
  told := by
    rw [d.execute_record]
    exact hf.record compound (d.settled r)

theorem Heedless.annotates {answer : Answering σ} {bare : σ → σ} {intervals : σ → List Interval} {id : Uuid}
    {storable : Option String → Prop} (h : Heedless answer bare id storable) (hf : Faithful answer intervals id)
    (compound : Compound) (r : ChangeRequest) (d d' : Advice) {s : σ} (hfresh : ∀ i ∈ intervals s, i.id ≠ id)
    (hd : storable (d.rootCause r)) (hd' : storable (d'.rootCause r)) :
    Annotates bare intervals id r d (d.record compound answer r s) (d'.record compound answer r s) := by
  have hrun := h.record compound (r := d.settled r) hd s
  have hrun' := h.record compound (r := d'.settled r) hd' s
  unfold Operation.Bares at hrun hrun'
  have hboth := hrun.symm.trans hrun'
  rw [← d.execute_record, ← d'.execute_record] at hboth
  exact hf.annotates compound r d d' hfresh (congrArg Prod.fst hboth) (congrArg Prod.snd hboth)

namespace Row

def bare (id : Uuid) (r : Row) : Row := { r with interval := r.interval.bare id }

variable (id : Uuid)

theorem bare_id (r : Row) : (r.bare id).interval.id = r.interval.id := Interval.bare_id id r.interval

theorem recencyLe_bare (a b : Row) : recencyLe (a.bare id) (b.bare id) = recencyLe a b := by
  unfold recencyLe bare
  simp only [Interval.bare_createdAt]

theorem latest?_bare (monitor : Uuid) (rows : List Row) :
    latest? monitor (rows.map (bare id)) = (latest? monitor rows).map (Interval.bare id) := by
  have hmonitor : ∀ r, (bare id r).interval.monitorId = r.interval.monitorId := by
    intro r
    unfold bare Interval.bare
    split <;> rfl
  unfold latest? ofMonitor
  rw [List.filter_map]
  simp only [Function.comp_def, hmonitor]
  exact greatest?_interval (fun _ => rfl) (recencyLe_bare id) _

theorem find?_bare (i : Uuid) (rows : List Row) : find? i (rows.map (bare id)) = (find? i rows).map (bare id) := by
  unfold find?
  rw [List.find?_map]
  simp only [Function.comp_def, bare_id]

theorem withEnd_bare (e : Option Instant) (r : Row) : (r.bare id).withEnd e = (r.withEnd e).bare id := by
  unfold withEnd bare Interval.bare
  dsimp only
  split <;> rfl

end Row

namespace Store

def bare (id : Uuid) (s : Store) : Store := { s with rows := s.rows.map (Row.bare id) }

variable (s : Store) (id : Uuid)

theorem contains_bare (i : Uuid) : (s.bare id).contains i = s.contains i := by
  unfold contains find? bare
  rw [Row.find?_bare, Option.isSome_map]

theorem setEnd_bare (i : Uuid) (e : Option Instant) : (s.bare id).setEnd i e = (s.setEnd i e).bare id := by
  unfold setEnd bare
  simp only [List.map_map]
  congr 2
  funext r
  simp only [Function.comp_apply, Row.bare_id]
  split
  . exact Row.withEnd_bare id e r
  . rfl

theorem erase_bare (i : Uuid) : (s.bare id).erase i = (s.erase i).bare id := by
  unfold erase bare
  simp only [List.filter_map, Function.comp_def, Row.bare_id]

theorem insert_bare (stamp : Stamp) (new : NewInterval) :
    (s.bare stamp.id).insert stamp new.bare =
      ((s.insert stamp new).1.bare stamp.id, (s.insert stamp new).2.bare stamp.id) := by
  have hinterval : new.bare.materialise stamp.id (s.nextCreatedAt stamp.now) =
      (new.materialise stamp.id (s.nextCreatedAt stamp.now)).bare stamp.id := (if_pos rfl).symm
  have hnext : (s.bare stamp.id).nextCreatedAt stamp.now = s.nextCreatedAt stamp.now := rfl
  unfold insert
  dsimp only
  rw [hnext, hinterval]
  unfold bare
  rw [List.map_append]
  rfl

theorem append_bare (stamp : Stamp) (new : NewInterval) (close : Option Uuid) :
    (s.bare stamp.id).append stamp new.bare close =
      ((s.append stamp new close).1.map (Interval.bare stamp.id), (s.append stamp new close).2.bare stamp.id) := by
  unfold append
  cases close with
  | none =>
    dsimp only
    rw [insert_bare]
    rfl
  | some prior =>
    dsimp only
    rw [insert_bare, contains_bare]
    cases s.contains prior with
    | false => rfl
    | true =>
      simp only [if_true]
      rw [setEnd_bare, Interval.bare_createdAt]
      rfl

end Store

namespace Memory

def bare (id : Uuid) (m : Memory) : Memory := { m with store := m.store.bare id }

theorem heedless (stamp : Stamp) :
    Heedless (fun m c => Memory.answer m stamp c) (bare stamp.id) stamp.id fun _ => True where
  causeless m c hc := by
    cases c with
    | store c =>
      cases c with
      | updateEndsAt i e =>
        unfold answer Store.answer bare
        dsimp only
        rw [Store.contains_bare, Store.setEnd_bare]
        split <;> rfl
      | delete i =>
        unfold answer Store.answer bare
        dsimp only
        rw [Store.contains_bare, Store.erase_bare]
        split <;> rfl
      | _ => cases hc
    | setPointer update => rfl
    | resolve user => cases hc
    | lock key =>
      unfold answer bare
      dsimp only
      split <;> rfl
    | release token =>
      unfold answer bare giveUp
      dsimp only
      split <;> rfl
  findLatest m monitor := by
    unfold Operation.Bares StoreCall.perform
    rw [Operation.execute_call, Operation.execute_call]
    unfold answer Store.answer
    dsimp only [bare]
    rw [Store.bare, Row.latest?_bare]
    rfl
  insert m new _ := by
    unfold Operation.Bares StoreCall.perform
    rw [Operation.execute_call, Operation.execute_call]
    unfold answer Store.answer
    dsimp only [bare]
    rw [Store.insert_bare]
    rfl
  append m new close _ := by
    unfold Operation.Bares StoreCall.perform
    rw [Operation.execute_call, Operation.execute_call]
    unfold answer Store.answer
    dsimp only [bare]
    rw [Store.append_bare]

theorem notes_created {s : Store} {stamp : Stamp} {new : NewInterval} {close : Option Uuid} {created : Interval}
    (h : (s.append stamp new close).1 = .ok created) : created.Notes stamp.id new.rootCause new.createdBy := by
  rw [Store.append_created (Prod.ext h rfl)]
  exact ⟨rfl, rfl, rfl⟩

theorem faithful (stamp : Stamp) :
    Faithful (fun m c => Memory.answer m stamp c) (fun m => m.store.intervals) stamp.id where
  stored cause creator m c hc hm := by
    rcases m.store_answer stamp c with ⟨c, rfl⟩ | hstore
    . show Interval.Noted _ _ _ (m.store.answer stamp c).2.intervals
      rcases m.store.intervals_answer stamp c with ⟨a, ha, hintervals⟩ | ⟨err, herr⟩
      . rw [hintervals]
        cases c with
        | insert new =>
          obtain ⟨rfl, rfl⟩ := hc
          cases ha
          exact hm.concat ⟨rfl, rfl, rfl⟩
        | append new close =>
          obtain ⟨rfl, rfl⟩ := hc
          have happended := hm.concat (notes_created ha)
          cases close with
          | none => exact happended
          | some prior => exact happended.map_endAt prior _
        | updateEndsAt i e => exact hm.map_endAt i e
        | delete i => exact hm.filter _
        | findLatest monitor => exact hm
        | _ => cases hc
      . rw [herr]
        exact hm
    . rw [hstore]
      exact hm
  insert m new created hcreated := by
    cases hcreated
    refine ⟨⟨rfl, rfl, rfl⟩, ?_⟩
    show ∃ j ∈ (m.store.insert stamp new).2.intervals, _
    rw [Store.intervals_insert]
    exact ⟨_, List.mem_append_right _ (List.mem_singleton_self _), rfl⟩
  append m new close created hcreated := by
    have hcreated : (m.store.append stamp new close).1 = .ok created := hcreated
    have hnotes := notes_created hcreated
    refine ⟨hnotes, ?_⟩
    rcases m.store.intervals_append stamp new close with ⟨created', hok, hintervals⟩ | ⟨err, herr⟩
    . cases hcreated.symm.trans hok
      show ∃ j ∈ (m.store.append stamp new close).2.intervals, _
      rw [hintervals]
      have hlast : ∃ j ∈ m.store.intervals ++ [created], j.id = stamp.id :=
        ⟨created, List.mem_append_right _ (List.mem_singleton_self _), hnotes.id⟩
      cases close with
      | none => exact hlast
      | some prior => exact Interval.holds_endAt hlast prior _
    . rw [herr] at hcreated
      cases hcreated
  kept m c hc hdelete hm := by
    rcases m.store_answer stamp c with ⟨c, rfl⟩ | hstore
    . cases c with
      | updateEndsAt i e =>
        show ∃ j ∈ (m.store.answer stamp (.updateEndsAt i e)).2.intervals, _
        unfold Store.answer
        dsimp only
        split
        . rw [Store.intervals_setEnd]
          exact Interval.holds_endAt hm i e
        . exact hm
      | delete i => exact absurd rfl (hdelete i)
      | _ => cases hc
    . rw [hstore]
      exact hm

end Memory

end StatusTimeline
