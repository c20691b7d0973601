import StatusTimeline.Proofs.Engine.Locking

/-!
This module contains the running of programs on a store that may have no creation time left to give; a program that asks
for one then does not come to an end. No program of an engine inserts more than one interval, so that those which run
while the clock is far enough from the end of the calendar are completed.
-/

namespace StatusTimeline

namespace Call

def inserts : Call → Bool
  | store (.insert _) => true
  | store (.append _ _) => true
  | _ => false

/--
Whether answering a call would need a creation time where there is none.
-/
def exhausts (s : Store) (now : Instant) : Call → Bool
  | store c => s.exhausts now c
  | _ => false

variable {s : Store} {now : Instant} {c : Call}

theorem inserts_store (c : StoreCall) : (store c).inserts = c.draws := by
  cases c <;> rfl

theorem exhausts_of_not_inserts (h : c.inserts = false) : c.exhausts s now = false := by
  cases c with
  | store c => exact Store.exhausts_of_not_draws ((inserts_store c).symm.trans h)
  | _ => rfl

theorem exhausts_of_hasTime (h : s.hasTime now = true) : c.exhausts s now = false := by
  cases c with
  | store c => exact Store.exhausts_of_hasTime h
  | _ => rfl

theorem not_inserts_of_isRead (h : c.isRead = true) : c.inserts = false := by
  cases c with
  | store c => cases c <;> first | rfl | cases h
  | _ => rfl

end Call

namespace Program

variable {σ α β : Type}

/--
Run a program to its end; none when one of its calls is not answered.
-/
def run? (answer : σ → (c : Call) → Option (Except Error c.Answer × σ)) : Program α → σ → Option (α × σ)
  | done a, s => some (a, s)
  | call c next, s =>
    match answer s c with
    | some (a, s) => run? answer (next a) s
    | none => none

/--
Whether a program inserts one interval at most, whatever its calls are answered.
-/
def InsertsOnce : Program α → Prop
  | done _ => True
  | call c next =>
    if c.inserts then ∀ answer, (next answer).Confined (·.inserts = false) else ∀ answer, (next answer).InsertsOnce

theorem insertsOnce_of_confined {p : Program α} (h : p.Confined (·.inserts = false)) : p.InsertsOnce := by
  induction p with
  | done a => trivial
  | call c next ih =>
    simp only [InsertsOnce, h.1, Bool.false_eq_true, if_false]
    exact fun answer => ih answer (h.2 answer)

/--
What inserts nothing may come before what inserts once.
-/
theorem insertsOnce_bind_of_confined {p : Program α} {f : α → Program β} (hp : p.Confined (·.inserts = false))
    (hf : ∀ a, (f a).InsertsOnce) : (p.bind f).InsertsOnce := by
  induction p with
  | done a => exact hf a
  | call c next ih =>
    simp only [bind_call, InsertsOnce, hp.1, Bool.false_eq_true, if_false]
    exact fun answer => ih answer (hp.2 answer)

theorem InsertsOnce.bind {p : Program α} {f : α → Program β} (hp : p.InsertsOnce)
    (hf : ∀ a, (f a).Confined (·.inserts = false)) : (p.bind f).InsertsOnce := by
  induction p with
  | done a => exact insertsOnce_of_confined (hf a)
  | call c next ih =>
    unfold InsertsOnce at hp
    rw [bind_call]
    unfold InsertsOnce
    split at hp
    . next hc =>
      rw [if_pos hc]
      exact fun answer => (hp answer).bind hf
    . next hc =>
      rw [if_neg hc]
      exact fun answer => ih answer (hp answer)

end Program

namespace Operation

variable {α β : Type}

def InsertsOnce (x : Operation α) : Prop := x.run.InsertsOnce

def Insertless (x : Operation α) : Prop := x.Confined fun c => c.inserts = false

theorem insertless_call {c : Call} (h : c.inserts = false) : Insertless c.perform := confined_call h

theorem Looks.insertless {x : Operation α} (h : x.Looks) : x.Insertless :=
  Program.Confined.mono h fun _ hc => Call.not_inserts_of_isRead hc.2

theorem Deletes.insertless {x : Operation α} (h : x.Deletes) : x.Insertless := by
  apply Program.Confined.mono h
  intro c hc
  cases c with
  | store c => cases c <;> first | rfl | cases hc
  | _ => rfl

theorem Insertless.insertsOnce {x : Operation α} (h : x.Insertless) : x.InsertsOnce :=
  Program.insertsOnce_of_confined h

theorem Insertless.bind {x : Operation α} {f : α → Operation β} (hx : x.Insertless)
    (hf : ∀ a, (f a).InsertsOnce) : (x >>= f).InsertsOnce := by
  apply Program.insertsOnce_bind_of_confined hx
  intro outcome
  cases outcome with
  | ok a => exact hf a
  | error e => trivial

theorem InsertsOnce.bind {x : Operation α} {f : α → Operation β} (hx : x.InsertsOnce)
    (hf : ∀ a, (f a).Insertless) : (x >>= f).InsertsOnce := by
  apply Program.InsertsOnce.bind hx
  intro outcome
  cases outcome with
  | ok a => exact hf a
  | error e => trivial

theorem InsertsOnce.call (c : Call) : InsertsOnce c.perform := by
  show Program.InsertsOnce (.call c .done)
  unfold Program.InsertsOnce
  split <;> exact fun _ => trivial

theorem InsertsOnce.locked {monitor : Uuid} {body : Operation α} (h : body.InsertsOnce) :
    (Engine.locked monitor body).InsertsOnce := by
  apply (insertless_call rfl).bind
  intro token
  show (Engine.finish token body).run.InsertsOnce
  rw [run_finish]
  exact Program.InsertsOnce.bind h fun _ => ⟨rfl, fun _ => trivial⟩

end Operation

namespace Engine

open Operation

variable (e : Engine)

theorem insertsOnce_append (new : NewInterval) (close : Option Uuid) : (e.append new close).InsertsOnce := by
  unfold append
  cases e.compound with
  | whole => exact .call _
  | stepwise =>
    apply (InsertsOnce.call (.store (.insert new))).bind
    intro created
    cases close with
    | none => exact confined_pure _
    | some prior =>
      apply confined_bind
      . apply confined_tryCatch (insertless_call rfl)
        intro err
        apply confined_bind
        . exact confined_tryCatch (insertless_call rfl) fun _ => confined_pure _
        . exact fun _ => confined_throw _
      . exact fun _ => confined_pure _

theorem insertsOnce_record (r : ChangeRequest) : (e.record r).InsertsOnce := by
  unfold record
  cases r.monitorId with
  | none => trivial
  | some monitor =>
    cases r.statusId with
    | none => trivial
    | some status =>
      apply InsertsOnce.locked
      rw [recordLocked_eq]
      apply (e.looks_rootCause r).insertless.bind
      intro rootCause
      apply (insertless_call rfl).bind
      intro prior
      apply (e.insertsOnce_append _ _).bind
      intro interval
      exact confined_bind (insertless_call rfl) fun _ => confined_pure _

theorem insertsOnce_delete (id : Uuid) : (e.delete id).InsertsOnce := by
  apply (looks_get id).insertless.bind
  intro target
  exact .locked (e.deletes_deleteLocked id).insertless.insertsOnce

end Engine

theorem Request.insertsOnce_operation (e : Engine) (r : Request) : (r.operation e).InsertsOnce := by
  cases r with
  | record r => exact e.insertsOnce_record r
  | delete id => exact e.insertsOnce_delete id
  | get id => exact (Engine.looks_get id).insertless.insertsOnce
  | audit monitor =>
    exact (Operation.InsertsOnce.call (.store (.list monitor))).bind fun _ => Operation.confined_pure _
  | _ => exact .call _

namespace Memory

variable {m : Memory} {stamp : Stamp} {α : Type}

/--
Answer a call with nothing else at work; none when the store has no creation time left to give.
-/
def answer? (stamp : Stamp) (m : Memory) (c : Call) : Option (Except Error c.Answer × Memory) :=
  if c.exhausts m.store stamp.now then none else some (m.answer stamp c)

theorem answer?_of_not_exhausts {c : Call} (h : c.exhausts m.store stamp.now = false) :
    m.answer? stamp c = some (m.answer stamp c) := by
  unfold answer?
  rw [h]
  rfl

/--
What a program that is completed comes to is what it comes to where creation times never end.
-/
theorem run_of_run? {p : Program α} {x : α × Memory} (h : p.run? (answer? stamp) m = some x) :
    p.run (fun m c => m.answer stamp c) m = x := by
  induction p generalizing m with
  | done a => exact Option.some.inj h
  | call c next ih =>
    unfold Program.run? at h
    by_cases hc : c.exhausts m.store stamp.now = true
    . have hnone : m.answer? stamp c = none := if_pos hc
      rw [hnone] at h
      cases h
    . rw [answer?_of_not_exhausts (Bool.eq_false_iff.2 hc)] at h
      exact ih _ h

theorem lastCreatedAt_of_not_inserts {c : Call} (h : c.inserts = false) :
    (m.answer stamp c).2.store.lastCreatedAt = m.store.lastCreatedAt := by
  rcases m.store_answer stamp c with ⟨c, rfl⟩ | hsame
  . exact Store.lastCreatedAt_of_not_draws ((Call.inserts_store c).symm.trans h)
  . rw [hsame]

theorem lastCreatedAt_answer (c : Call) :
    (m.answer stamp c).2.store.lastCreatedAt = m.store.lastCreatedAt ∨
      (m.answer stamp c).2.store.lastCreatedAt = some (m.store.nextCreatedAt stamp.now) := by
  cases hc : c.inserts with
  | false => exact .inl (lastCreatedAt_of_not_inserts hc)
  | true =>
    match c, hc with
    | .store (.insert new), _ => exact .inr rfl
    | .store (.append new close), _ => exact m.store.lastCreatedAt_append stamp new close

theorem run?_of_confined {p : Program α} (h : p.Confined (·.inserts = false)) :
    ∃ x, p.run? (answer? stamp) m = some x ∧ x.2.store.lastCreatedAt = m.store.lastCreatedAt := by
  induction p generalizing m with
  | done a => exact ⟨_, rfl, rfl⟩
  | call c next ih =>
    obtain ⟨x, hx, hlast⟩ := ih (m.answer stamp c).1 (m := (m.answer stamp c).2) (h.2 _)
    refine ⟨x, ?_, hlast.trans (lastCreatedAt_of_not_inserts h.1)⟩
    unfold Program.run?
    rw [answer?_of_not_exhausts (Call.exhausts_of_not_inserts h.1)]
    exact hx

/--
A program that inserts once is completed where there is a creation time to give, and gives that one or none.
-/
theorem run?_of_insertsOnce {p : Program α} (h : p.InsertsOnce) (htime : m.store.hasTime stamp.now = true) :
    ∃ x, p.run? (answer? stamp) m = some x ∧
      (x.2.store.lastCreatedAt = m.store.lastCreatedAt ∨
        x.2.store.lastCreatedAt = some (m.store.nextCreatedAt stamp.now)) := by
  induction p generalizing m with
  | done a => exact ⟨_, rfl, .inl rfl⟩
  | call c next ih =>
    have hanswer : m.answer? stamp c = some (m.answer stamp c) :=
      answer?_of_not_exhausts (Call.exhausts_of_hasTime htime)
    unfold Program.run?
    rw [hanswer]
    unfold Program.InsertsOnce at h
    cases hc : c.inserts with
    | true =>
      simp only [hc, if_true] at h
      obtain ⟨x, hx, hlast⟩ : ∃ x, (next (m.answer stamp c).1).run? (answer? stamp) (m.answer stamp c).2 = some x ∧
          x.2.store.lastCreatedAt = (m.answer stamp c).2.store.lastCreatedAt := run?_of_confined (h (m.answer stamp c).1)
      refine ⟨x, hx, ?_⟩
      rw [hlast]
      exact lastCreatedAt_answer c
    | false =>
      simp only [hc, Bool.false_eq_true, if_false] at h
      have hsame : (m.answer stamp c).2.store.lastCreatedAt = m.store.lastCreatedAt := lastCreatedAt_of_not_inserts hc
      have hnext : (m.answer stamp c).2.store.nextCreatedAt stamp.now = m.store.nextCreatedAt stamp.now := by
        unfold Store.nextCreatedAt
        rw [hsame]
      have htime' : (m.answer stamp c).2.store.hasTime stamp.now = true := by
        unfold Store.hasTime at htime ⊢
        rw [hnext]
        exact htime
      obtain ⟨x, hx, hlast⟩ := ih _ (h _) htime'
      rw [hsame, hnext] at hlast
      exact ⟨x, hx, hlast⟩

end Memory

end StatusTimeline
