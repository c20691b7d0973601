import StatusTimeline.Proofs.Database.Serve
import StatusTimeline.Proofs.Engine.Annotation

/-!
This module contains what becomes of records whose root cause a database cannot hold. They fail, and nothing of them is
written.
-/

namespace StatusTimeline

namespace Operation

variable {σ α β : Type} {answer answer' : Answering σ} {x y : Operation α} {s : σ} {P : σ → Prop}

/--
Whether two operations with collaborators of two kinds fail alike, and leave a state that is as told.
-/
def Balk (answer answer' : Answering σ) (x y : Operation α) (s : σ) (P : σ → Prop) : Prop :=
  ∃ err s', x.execute answer s = (.error err, s') ∧ y.execute answer' s = (.error err, s') ∧ P s'

theorem Balk.mono {P' : σ → Prop} (h : Balk answer answer' x y s P) (himp : ∀ s', P s' → P' s') :
    Balk answer answer' x y s P' := by
  obtain ⟨err, s', hx, hy, hs⟩ := h
  exact ⟨err, s', hx, hy, himp s' hs⟩

theorem balk_throw (err : Error) (h : P s) : Balk answer answer' (throw err : Operation α) (throw err) s P :=
  ⟨err, s, rfl, rfl, h⟩

theorem Balk.bind (h : Balk answer answer' x y s P) (f g : α → Operation β) :
    Balk answer answer' (x >>= f) (y >>= g) s P := by
  obtain ⟨err, s', hx, hy, hs⟩ := h
  refine ⟨err, s', ?_, ?_, hs⟩
  . rw [execute_bind, hx]
  . rw [execute_bind, hy]

/--
A call that both answer alike.
-/
theorem balk_call_bind {c : Call} {f g : c.Answer → Operation α} (hsame : answer' s c = answer s c)
    (herror : ∀ err, (answer s c).1 = .error err → P (answer s c).2)
    (hok : ∀ a, (answer s c).1 = .ok a → Balk answer answer' (f a) (g a) (answer s c).2 P) :
    Balk answer answer' (c.perform >>= f) (c.perform >>= g) s P := by
  unfold Balk
  rw [execute_bind, execute_bind, execute_call, execute_call, hsame]
  cases hc : answer s c with
  | mk outcome s' =>
    rw [hc] at herror hok
    cases outcome with
    | error err => exact ⟨err, s', rfl, rfl, herror err rfl⟩
    | ok a => exact hok a rfl

theorem balk_locked {monitor : Uuid}
    (hlock : answer' s (.lock (Engine.lockKey monitor)) = answer s (.lock (Engine.lockKey monitor)))
    (hrelease : ∀ s token, answer' s (.release token) = answer s (.release token))
    (hlocked : ∀ err, (answer s (.lock (Engine.lockKey monitor))).1 = .error err →
      P (answer s (.lock (Engine.lockKey monitor))).2)
    (h : Balk answer answer' x y (answer s (.lock (Engine.lockKey monitor))).2
      fun s' => ∀ token, P (answer s' (.release token)).2) :
    Balk answer answer' (Engine.locked monitor x) (Engine.locked monitor y) s P := by
  unfold Balk
  rw [execute_locked, execute_locked, hlock]
  cases hc : answer s (.lock (Engine.lockKey monitor)) with
  | mk token s' =>
    rw [hc] at hlocked h
    cases token with
    | error err => exact ⟨err, s', rfl, rfl, hlocked err rfl⟩
    | ok token =>
      obtain ⟨err, s'', hx, hy, hs⟩ := h
      dsimp only at hx hy ⊢
      rw [hx, hy]
      dsimp only
      rw [hrelease]
      exact ⟨err, _, rfl, rfl, hs token⟩

end Operation

namespace Table

/--
Whether a database can hold a root cause. Its texts have no NUL characters.
-/
def Storable (cause : Option String) : Prop := ∀ text, cause = some text → '\x00' ∉ text.toList

theorem storable_iff {cause : Option String} : Storable cause ↔ cause.any refusesText = false := by
  unfold Storable refusesText
  cases cause with
  | none => simp
  | some text => simpa using List.forall_mem_ne'.symm

theorem not_storable_iff {cause : Option String} : ¬ Storable cause ↔ cause.any refusesText = true := by
  rw [storable_iff, Bool.not_eq_false]

end Table

/--
Collaborators that refuse every new interval, as a database does that cannot hold its root cause.
-/
def Answering.refusing {σ : Type} (answer : Answering σ) : Answering σ := fun s c =>
  match c with
  | .store (.insert _) => (.error (.database .nulCharacter), s)
  | .store (.append _ _) => (.error (.database .nulCharacter), s)
  | c => answer s c

theorem Answering.faulty_refused {σ : Type} {answer : Answering σ} (faults : Nat → Option Error) {s : σ × Nat} {c : Call}
    {err : Error} (h : answer s.1 c = (.error err, s.1)) :
    answer.faulty faults s c = (.error ((faults s.2).getD err), s.1, s.2 + 1) := by
  unfold faulty
  cases faults s.2 with
  | some e => rfl
  | none => rw [h, Option.getD_none]

namespace Database

open Operation

section Refused

variable (ttl : Span) (t : DatabaseTurn) {faults : Nat → Option Error} {new new' : NewInterval}

theorem withLeases_snd (db : Database) (key : String) (act : LeaseTable → Bool × LeaseTable) :
    ∃ leases, (db.withLeases key act).2 = { db with leases } := by
  unfold withLeases guarded
  split
  . exact ⟨_, rfl⟩
  . split <;> exact ⟨_, rfl⟩

theorem lock_snd (db : Database) (key : String) : ∃ leases, (reply ttl t db (.lock key)).2 = { db with leases } := by
  obtain ⟨leases, hleases⟩ :=
    db.withLeases_snd key fun l => l.tryAcquire key t.lease (t.clock (.lock key)) ttl
  refine ⟨leases, ?_⟩
  unfold reply tryLease
  dsimp only
  cases hlease : db.withLeases key fun l => l.tryAcquire key t.lease (t.clock (.lock key)) ttl with
  | mk held db' =>
    rw [hlease] at hleases
    cases held with
    | error err => exact hleases
    | ok held => cases held <;> exact hleases

theorem release_snd (db : Database) (token : Token) :
    ∃ leases, (reply ttl t db (.release token)).2 = { db with leases } := by
  unfold reply releaseLease
  dsimp only
  generalize hact : (fun l : LeaseTable => l.release token.key _) = act
  obtain ⟨leases, hleases⟩ := db.withLeases_snd token.key act
  refine ⟨leases, ?_⟩
  cases hlease : db.withLeases token.key act with
  | mk held db' =>
    rw [hlease] at hleases
    cases held with
    | error err => exact hleases
    | ok held => cases held <;> exact hleases

theorem answer_of_open {db : Database} (hopen : db.closed = false) (stamp : Stamp) (c : StoreCall) :
    db.answer stamp c =
      ((db.intervals.answer stamp c).1, { db with intervals := (db.intervals.answer stamp c).2 }) :=
  if_neg (by rw [hopen]; exact Bool.false_ne_true)

/--
A search leaves the database as it is, and does not succeed while the pool is closed.
-/
theorem reply_findLatest (db : Database) (monitor : Uuid) :
    (reply ttl t db (.store (.findLatest monitor))).2 = db ∧
      ∀ latest, (reply ttl t db (.store (.findLatest monitor))).1 = .ok latest → db.closed = false := by
  unfold reply answer guarded
  dsimp only
  split
  . exact ⟨rfl, nofun⟩
  . next hopen => exact ⟨rfl, fun _ _ => Bool.eq_false_iff.2 hopen⟩

/--
A database cannot hold a new interval whose root cause it refuses.
-/
theorem reply_refused {db : Database} (hopen : db.closed = false) (hnew : new.rootCause.any Table.refusesText = true) :
    reply ttl t db (.store (.insert new)) = (.error (.database .nulCharacter), db) ∧
      ∀ close, reply ttl t db (.store (.append new close)) = (.error (.database .nulCharacter), db) := by
  have hrefused : ∀ stamp, db.intervals.insert stamp new = (.error (.database .nulCharacter), db.intervals) :=
    fun _ => if_pos hnew
  constructor
  . show db.answer _ (.insert new) = _
    rw [answer_of_open hopen]
    simp only [Table.answer, hrefused]
  . intro close
    show db.answer _ (.append new close) = _
    rw [answer_of_open hopen]
    simp only [Table.answer, Table.append, hrefused]

theorem faulty_kept (faults : Nat → Option Error) {s : Database × Nat} {c : Call}
    (h : ∃ leases, (reply ttl t s.1 c).2 = { s.1 with leases }) :
    ((reply ttl t).faulty faults s c).2.1.intervals = s.1.intervals ∧
      ((reply ttl t).faulty faults s c).2.1.monitors = s.1.monitors := by
  obtain ⟨leases, hleases⟩ := h
  unfold Answering.faulty
  cases faults s.2 with
  | some err => exact ⟨rfl, rfl⟩
  | none =>
    dsimp only
    rw [hleases]
    exact ⟨rfl, rfl⟩

/--
An append of what the database refuses fails at its first call.
-/
theorem balk_append (e : Engine) {s : Database × Nat} (hopen : s.1.closed = false)
    (hnew : new.rootCause.any Table.refusesText = true) (close close' : Option Uuid) :
    Balk ((reply ttl t).faulty faults) ((reply ttl t).refusing.faulty faults) (e.append new close) (e.append new' close')
      s fun s' => s'.1 = s.1 := by
  obtain ⟨hinsert, happend⟩ := reply_refused ttl t hopen hnew
  have hinsert' : (reply ttl t).refusing s.1 (.store (.insert new')) = (.error (.database .nulCharacter), s.1) := rfl
  have happend' : (reply ttl t).refusing s.1 (.store (.append new' close')) = (.error (.database .nulCharacter), s.1) :=
    rfl
  unfold Engine.append
  cases e.compound with
  | whole =>
    exact ⟨_, _, Answering.faulty_refused faults (happend close), Answering.faulty_refused faults happend', rfl⟩
  | stepwise =>
    have hfirst : Balk ((reply ttl t).faulty faults) ((reply ttl t).refusing.faulty faults)
        (StoreCall.insert new).perform (StoreCall.insert new').perform s fun s' => s'.1 = s.1 :=
      ⟨_, _, Answering.faulty_refused faults hinsert, Answering.faulty_refused faults hinsert', rfl⟩
    exact hfirst.bind _ _

theorem balk_succeed (e : Engine) (hmonitor : new'.monitorId = new.monitorId)
    (hnew : new.rootCause.any Table.refusesText = true) (s : Database × Nat) :
    Balk ((reply ttl t).faulty faults) ((reply ttl t).refusing.faulty faults) (e.succeed new) (e.succeed new')
      s fun s' => s'.1 = s.1 := by
  obtain ⟨hkept, hopen⟩ := reply_findLatest ttl t s.1 new.monitorId
  have hstate : ((reply ttl t).faulty faults s (.store (.findLatest new.monitorId))).2.1 = s.1 := by
    unfold Answering.faulty
    cases faults s.2 with
    | some err => rfl
    | none => exact hkept
  unfold Engine.succeed
  rw [hmonitor]
  refine balk_call_bind ?_ ?_ ?_
  . rfl
  . exact fun _ _ => hstate
  . intro prior hprior
    have hclosed : s.1.closed = false := by
      unfold Answering.faulty at hprior
      cases hfault : faults s.2 with
      | some err =>
        rw [hfault] at hprior
        cases hprior
      | none =>
        rw [hfault] at hprior
        exact hopen prior hprior
    rw [← hstate] at hclosed
    apply Balk.bind
    apply (balk_append ttl t e hclosed hnew _ _).mono
    exact fun _ h => h.trans hstate

/--
A record whose root cause the database refuses fails as it does where nothing new is taken, and writes nothing.
-/
theorem balk_record (compound : Compound) {r r' : ChangeRequest} (hmonitor : r'.monitorId = r.monitorId)
    (hstatus : r'.statusId = r.statusId) (hr : r.rootCause.any Table.refusesText = true) (s : Database × Nat) :
    Balk ((reply ttl t).faulty faults) ((reply ttl t).refusing.faulty faults) (Engine.record { compound } r)
      (Engine.record { compound } r') s fun s' =>
        s'.1.intervals = s.1.intervals ∧ s'.1.monitors = s.1.monitors := by
  unfold Engine.record
  rw [hmonitor, hstatus]
  cases r.monitorId with
  | none => exact balk_throw _ ⟨rfl, rfl⟩
  | some monitor =>
    cases r.statusId with
    | none => exact balk_throw _ ⟨rfl, rfl⟩
    | some status =>
      have hlock := faulty_kept ttl t faults (lock_snd ttl t s.1 (Engine.lockKey monitor))
      refine balk_locked ?_ ?_ ?_ ?_
      . rfl
      . exact fun _ _ => rfl
      . exact fun _ _ => hlock
      . rw [Engine.recordLocked_given, Engine.recordLocked_given]
        apply (balk_succeed ttl t _ _ hr _).mono
        . intro s' hs' token
          have hrelease := faulty_kept ttl t faults (release_snd ttl t s'.1 token)
          rw [hs'] at hrelease
          exact ⟨hrelease.1.trans hlock.1, hrelease.2.trans hlock.2⟩
        . rfl

end Refused

end Database

end StatusTimeline
