import StatusTimeline.Memory
import StatusTimeline.Proofs.Engine.Execution

/-!
This module contains requests to an engine in its own process, what comes of serving one with nothing else at
work, and the rules by which programs are executed there call by call.
-/

namespace StatusTimeline

inductive Request where
  | record (r : ChangeRequest)
  | delete (id : Uuid)
  | get (id : Uuid)
  | current (monitor : Uuid)
  | timeline (monitor : Uuid)
  | audit (monitor : Uuid)
  | purge (cutoff : Instant)
deriving DecidableEq, Repr

namespace Request

abbrev Answer : Request → Type
  | record _ => StatusChange
  | delete _ => DeletionOutcome
  | get _ => Interval
  | current _ => Option Interval
  | timeline _ => List Interval
  | audit _ => AuditReport
  | purge _ => Nat

def operation (e : Engine) : (r : Request) → Operation r.Answer
  | record r => e.record r
  | delete id => e.delete id
  | get id => Engine.get id
  | current monitor => Engine.current monitor
  | timeline monitor => Engine.timeline monitor
  | audit monitor => Engine.audit monitor
  | purge cutoff => Engine.sweepBefore cutoff

/--
Whether the request leaves the start of the interval that it opens to the store.
-/
def StartsNow : Request → Prop
  | record r => r.startsAt = none
  | _ => True

instance (r : Request) : Decidable r.StartsNow := by
  cases r <;> unfold StartsNow <;> infer_instance

end Request

namespace Memory

def perform (m : Memory) (stamp : Stamp) (x : Operation α) : Except Error α × Memory :=
  x.run.run (fun m c => m.answer stamp c) m

def serve (e : Engine) (m : Memory) (stamp : Stamp) (r : Request) : Except Error r.Answer × Memory :=
  m.perform stamp (r.operation e)

variable {m : Memory} {stamp : Stamp} {α β : Type}

theorem perform_pure (a : α) : m.perform stamp (pure a) = (.ok a, m) := rfl

theorem perform_throw (e : Error) : m.perform stamp (throw e : Operation α) = (.error e, m) := rfl

theorem perform_call (c : Call) : m.perform stamp c.perform = m.answer stamp c := rfl

theorem perform_store (c : StoreCall) :
    @perform (no_index c.Answer) m stamp c.perform =
      ((m.store.answer stamp c).1, { m with store := (m.store.answer stamp c).2 }) := rfl

theorem perform_setPointer (update : PointerUpdate) :
    @perform (no_index Unit) m stamp (Call.setPointer update).perform =
      (.ok (), { m with board := m.board.set update }) := rfl

theorem perform_resolve (user : Uuid) :
    @perform (no_index Lookup) m stamp (Call.resolve user).perform =
      (.ok (.ofSearch (m.directory.find? user)), m) := rfl

theorem perform_bind (x : Operation α) (f : α → Operation β) :
    m.perform stamp (x >>= f) =
      match m.perform stamp x with
      | (.ok a, m) => m.perform stamp (f a)
      | (.error e, m) => (.error e, m) := by
  have h := Operation.execute_bind (fun m c => Memory.answer m stamp c) m x f
  unfold Operation.execute at h
  unfold perform
  rw [h]
  cases x.run.run (fun m c => m.answer stamp c) m with
  | mk a m => cases a <;> rfl

theorem perform_tryCatch (x : Operation α) (f : Error → Operation α) :
    m.perform stamp (tryCatch x f) =
      match m.perform stamp x with
      | (.ok a, m) => (.ok a, m)
      | (.error e, m) => m.perform stamp (f e) := by
  have h := Operation.execute_tryCatch (fun m c => Memory.answer m stamp c) m x f
  unfold Operation.execute at h
  unfold perform
  rw [h]
  cases x.run.run (fun m c => m.answer stamp c) m with
  | mk a m => cases a <;> rfl

theorem perform_finish (token : Token) (body : Operation α) :
    m.perform stamp (Engine.finish token body) =
      match m.perform stamp body with
      | (outcome, m) =>
        match m.answer stamp (.release token) with
        | (.ok _, m) => (outcome, m)
        | (.error e, m) => (match outcome with | .ok _ => .error e | .error e => .error e, m) := by
  have h := Operation.execute_finish (fun m c => Memory.answer m stamp c) m token body
  unfold Operation.execute at h
  unfold perform
  rw [h]
  cases body.run.run (fun m c => m.answer stamp c) m with
  | mk outcome m =>
    simp only
    cases m.answer stamp (.release token) with
    | mk released m => cases outcome <;> cases released <;> rfl

end Memory

end StatusTimeline
