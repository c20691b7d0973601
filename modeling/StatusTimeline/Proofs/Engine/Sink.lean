import StatusTimeline.Proofs.Engine.Locking
import StatusTimeline.Proofs.Engine.Replica

/-!
This module contains the writing operations of an engine when what keeps the status pointers refuses to be written to.
They do all else that they do otherwise, since the pointer is what they write last.
-/

namespace StatusTimeline

def Call.isPointer : Call → Bool
  | .setPointer _ => true
  | _ => false

namespace Memory

variable {α β : Type}

/--
Answer a call from memory, but a pointer with the error of the sink if it has one.
-/
def sinking (stamp : Stamp) (sink : Option Error) : Answering Memory := fun m c =>
  match c, sink with
  | .setPointer _, some err => (.error err, m)
  | c, _ => m.answer stamp c

/--
What a success comes to when its pointer was refused.
-/
def unpointed (err : Error) (board : Board) : Except Error α × Memory → Except Error α × Memory
  | (.ok _, m) => (.error err, { m with board })
  | (.error e, m) => (.error e, m)

/--
Whether an operation that the sink refuses differs only by its pointer from one that it does not.
-/
def Falls (stamp : Stamp) (err : Error) (m : Memory) (x : Operation α) : Prop :=
  x.execute (sinking stamp (some err)) m = unpointed err m.board (m.perform stamp x)

/--
Whether an operation sets no pointers.
-/
def Plain (x : Operation α) : Prop := x.Confined fun c => c.isPointer = false

variable {m : Memory} {stamp : Stamp} {sink : Option Error} {err : Error} {e : Engine}

theorem sinking_of_not_pointer (m : Memory) {c : Call} (h : c.isPointer = false) :
    sinking stamp sink m c = m.answer stamp c := by
  cases c <;> first | rfl | cases h

theorem sinking_none (stamp : Stamp) : sinking stamp none = fun m c => m.answer stamp c := by
  funext m c
  cases c <;> rfl

theorem board_answer (m : Memory) {c : Call} (h : c.isPointer = false) : (m.answer stamp c).2.board = m.board := by
  cases c with
  | store c => rfl
  | setPointer update => cases h
  | resolve user => rfl
  | lock key => exact (m.answer_of_isRead stamp rfl).2
  | release token => exact (m.answer_of_isRead stamp rfl).2

namespace Plain

theorem execute {x : Operation α} (h : Plain x) (m : Memory) : x.execute (sinking stamp sink) m = m.perform stamp x :=
  Operation.Confined.execute_congr h (fun m _ hc => sinking_of_not_pointer m hc) m

theorem board {x : Operation α} (h : Plain x) (m : Memory) : (m.perform stamp x).2.board = m.board :=
  Program.Confined.run_induction (I := fun m' => m'.board = m.board) h
    (fun m _ hc hm => (board_answer m hc).trans hm) rfl

end Plain

theorem plain_of_looks {x : Operation α} (h : x.Looks) : Plain x := by
  apply Program.Confined.mono h
  intro c hc
  cases c <;> first | rfl | cases hc.2

theorem falls_throw (e : Error) : Falls stamp err m (throw e : Operation α) := rfl

theorem falls_bind {x : Operation β} {f : β → Operation α} (hx : Plain x)
    (hf : ∀ b m', m.perform stamp x = (.ok b, m') → Falls stamp err m' (f b)) : Falls stamp err m (x >>= f) := by
  unfold Falls
  rw [Operation.execute_bind, perform_bind, hx.execute]
  have hboard : (m.perform stamp x).2.board = m.board := hx.board m
  cases hrun : m.perform stamp x with
  | mk outcome m' =>
    rw [hrun] at hboard
    cases outcome with
    | error e => rfl
    | ok b => exact hboard ▸ hf b m' hrun

theorem falls_setPointer (update : PointerUpdate) (a : α) :
    Falls stamp err m ((Call.setPointer update).perform >>= fun _ => pure a) := rfl

theorem falls_map {x : Operation β} (h : Falls stamp err m x) (f : β → α) :
    Falls stamp err m (x >>= fun b => pure (f b)) := by
  unfold Falls at h ⊢
  rw [Operation.execute_bind, perform_bind, h]
  cases m.perform stamp x with
  | mk outcome m' => cases outcome <;> rfl

theorem falls_finish {key : String} {provider ticket : Nat} {body : Operation α} (h : Falls stamp err m body) :
    Falls stamp err m (Engine.finish { key, hold := .claim provider ticket } body) := by
  unfold Falls at h ⊢
  rw [Operation.execute_finish, perform_finish, h]
  cases m.perform stamp body with
  | mk outcome m' => cases outcome <;> rfl

/--
Under a lock, which is given back whatever came of the operation.
-/
theorem falls_locked {monitor : Uuid} {body : Operation α}
    (h : ∀ m', m'.store = m.store → Falls stamp err m' body) : Falls stamp err m (Engine.locked monitor body) := by
  unfold Engine.locked
  generalize Engine.lockKey monitor = key
  apply falls_bind (Operation.confined_call rfl)
  intro token m' hlock
  have hstore := (m.answer_of_isRead stamp (c := .lock key) rfl).1
  rw [perform_call] at hlock
  rw [hlock] at hstore
  simp only [answer] at hlock
  split at hlock
  . cases hlock
    exact falls_finish (h _ hstore)
  . cases hlock

section Stages

theorem falls_succeed (he : e.compound = .whole) (new : NewInterval) : Falls stamp err m (e.succeed new) := by
  unfold Engine.succeed Engine.append
  simp only [he]
  apply falls_bind (Operation.confined_call rfl)
  intro prior m₁ _
  apply falls_bind (Operation.confined_call rfl)
  intro interval m₂ _
  exact falls_setPointer _ _

theorem falls_settle {monitor : Uuid} {latest : Interval} (h : Row.latest? monitor m.store.rows = some latest) :
    Falls stamp err m (Engine.settle monitor) := by
  unfold Engine.settle
  apply falls_bind (Operation.confined_call rfl)
  intro found m' hfind
  cases hfind
  simp only [h]
  exact falls_setPointer _ _

theorem falls_cutOutOne (he : e.compound = .whole) (hids : m.store.ids.Nodup) (target : Interval) :
    Falls stamp err m (e.cutOutOne target) := by
  unfold Engine.cutOutOne
  apply falls_bind (Operation.confined_call rfl)
  intro count m₁ hcount
  cases hcount
  dsimp only
  split
  . exact falls_throw _
  next hmany =>
  unfold Engine.cutOut Engine.applyDeletion
  simp only [he]
  apply falls_bind (Operation.confined_call rfl)
  intro neighbors m₂ hneighbors
  cases hneighbors
  apply falls_bind (Operation.confined_call rfl)
  intro _ m₃ happly
  have happ : m.store.applyDeletion (.restitch target
      (Row.neighbors target.monitorId target.startsAt m.store.rows)) = (.ok (), m₃.store) := by
    have hok := congrArg Prod.fst happly
    have hstore := congrArg (·.2.store) happly
    exact Prod.ext hok hstore
  obtain ⟨latest, hlatest⟩ := Store.latest?_applyDeletion hids (Nat.lt_of_not_le hmany) happ
  exact falls_map (falls_settle hlatest) _

theorem falls_deleteLocked (he : e.compound = .whole) (hids : m.store.ids.Nodup) (id : Uuid) :
    Falls stamp err m (e.deleteLocked id) := by
  rw [Engine.deleteLocked_eq]
  apply falls_bind (plain_of_looks (Engine.looks_get id))
  intro target m' hget
  have hm : m' = m := by
    rw [perform_get] at hget
    split at hget <;> cases hget
    rfl
  rw [hm]
  exact falls_cutOutOne he hids target

/--
A record or a deletion differs only by its pointer when the sink refuses that.
-/
theorem falls_operation (he : e.compound = .whole) (hids : m.store.ids.Nodup) {r : Request} (hr : r.Writes) :
    Falls stamp err m (r.operation e) := by
  cases r with
  | record r =>
    show Falls stamp err m (e.record r)
    unfold Engine.record
    cases r.monitorId with
    | none => exact falls_throw _
    | some monitor =>
      cases r.statusId with
      | none => exact falls_throw _
      | some status =>
        apply falls_locked
        intro m' _
        rw [Engine.recordLocked_eq]
        apply falls_bind (plain_of_looks (e.looks_rootCause r))
        intro cause m'' _
        exact falls_succeed he _
  | delete id =>
    show Falls stamp err m (e.delete id)
    unfold Engine.delete
    apply falls_bind (plain_of_looks (Engine.looks_get id))
    intro target m' hget
    apply falls_locked
    intro m'' hstore
    apply falls_deleteLocked he
    rw [hstore]
    rw [perform_get] at hget
    split at hget <;> cases hget
    exact hids
  | _ => exact hr.elim

end Stages

end Memory

end StatusTimeline
