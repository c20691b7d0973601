import StatusTimeline.Proofs.Engine.Execution
import StatusTimeline.Proofs.Engine.Snapshot

/-!
This module contains executions in which any of the calls to the collaborators may fail. A call that fails so changes
nothing, and what every call was answered is kept.
-/

namespace StatusTimeline

namespace Call

/--
Whether a call leaves intervals and pointers as they are.
-/
def isRead : Call → Bool
  | store c => c.isRead
  | setPointer _ => false
  | resolve _ => true
  | lock _ => true
  | release _ => true

def isLookup : Call → Bool
  | resolve _ => true
  | _ => false

def isRelease : Call → Bool
  | release _ => true
  | _ => false

end Call

structure Answered where
  call : Call
  answer : Except Error call.Answer

def Answered.failed (x : Answered) : Bool :=
  match x.answer with
  | .ok _ => false
  | .error _ => true

namespace Memory

variable (m : Memory) (stamp : Stamp)

theorem answer_of_isRead {c : Call} (h : c.isRead = true) :
    (m.answer stamp c).2.store = m.store ∧ (m.answer stamp c).2.board = m.board := by
  cases c with
  | store c => exact ⟨StoreCall.answer_of_isRead h, rfl⟩
  | setPointer update => cases h
  | resolve user => exact ⟨rfl, rfl⟩
  | lock key =>
    simp only [answer]
    split <;> exact ⟨rfl, rfl⟩
  | release token =>
    simp only [answer]
    split
    . next heq => simp [giveUp, heq]
    . exact ⟨rfl, rfl⟩

theorem answer_error {c : Call} {e : Error} (h : (m.answer stamp c).1 = .error e) :
    (m.answer stamp c).2.store = m.store ∧ (m.answer stamp c).2.board = m.board := by
  cases c with
  | store c =>
    rcases m.store.intervals_answer stamp c with ⟨a, hok, _⟩ | ⟨_, herr⟩
    . exact absurd (hok.symm.trans h) (by simp)
    . exact ⟨congrArg Prod.snd herr, rfl⟩
  | setPointer update => cases h
  | resolve user => exact m.answer_of_isRead stamp rfl
  | lock key => exact m.answer_of_isRead stamp rfl
  | release token => exact m.answer_of_isRead stamp rfl

end Memory

/--
How far an execution has got: what it has made of the memory, and the calls that were answered.
-/
structure Attempt where
  memory : Memory
  calls : List Answered := []

namespace Attempt

def snapshot (s : Attempt) : Snapshot := s.memory.snapshot

/--
Answer a call from memory, unless `faults` has an error for the call of this number.
-/
def answer (stamp : Stamp) (faults : Nat → Option Error) : Answering Attempt := fun s c =>
  match faults s.calls.length with
  | some e => (.error e, { s with calls := s.calls ++ [⟨c, .error e⟩] })
  | none =>
    let (answer, memory) := s.memory.answer stamp c
    (answer, { memory, calls := s.calls ++ [⟨c, answer⟩] })

/--
A call has failed: by a fault, or because the memory refuses it.
-/
structure Refused (s : Attempt) (c : Call) (s' : Attempt) : Prop where
  store : s'.memory.store = s.memory.store
  board : s'.memory.board = s.memory.board
  calls : ∃ e, s'.calls = s.calls ++ [⟨c, .error e⟩]

structure Granted (stamp : Stamp) (s : Attempt) (c : Call) (a : c.Answer) (s' : Attempt) : Prop where
  answer : (s.memory.answer stamp c).1 = .ok a
  memory : s'.memory = (s.memory.answer stamp c).2
  calls : s'.calls = s.calls ++ [⟨c, .ok a⟩]

variable {stamp : Stamp} {faults : Nat → Option Error} {s s' : Attempt}

theorem snapshot_congr (hstore : s'.memory.store = s.memory.store) (hboard : s'.memory.board = s.memory.board) :
    s'.snapshot = s.snapshot := by
  simp only [snapshot, Memory.snapshot, hstore, hboard]

theorem answer_calls (c : Call) :
    (answer stamp faults s c).2.calls = s.calls ++ [⟨c, (answer stamp faults s c).1⟩] := by
  unfold answer
  split <;> rfl

/--
Every call is refused, with the error that is kept of it, or granted.
-/
theorem ends_call_told {c : Call} {Q : Except Error c.Answer → Attempt → Prop}
    (hrefused : ∀ e s', s.Refused c s' → s'.calls = s.calls ++ [⟨c, .error e⟩] → Q (.error e) s')
    (hgranted : ∀ a s', s.Granted stamp c a s' → Q (.ok a) s') :
    Operation.Ends (answer stamp faults) c.perform s Q := by
  unfold Operation.Ends
  rw [Operation.execute_call, answer]
  split
  . next e _ => exact hrefused e _ ⟨rfl, rfl, e, rfl⟩ rfl
  . cases hm : s.memory.answer stamp c with
    | mk a memory =>
      cases a with
      | ok a => exact hgranted a _ ⟨by rw [hm], by rw [hm], rfl⟩
      | error e =>
        have herr := s.memory.answer_error stamp (congrArg Prod.fst hm)
        rw [hm] at herr
        exact hrefused e _ ⟨herr.1, herr.2, e, rfl⟩ rfl

theorem ends_call {c : Call} {Q : Except Error c.Answer → Attempt → Prop}
    (hrefused : ∀ e s', s.Refused c s' → Q (.error e) s')
    (hgranted : ∀ a s', s.Granted stamp c a s' → Q (.ok a) s') :
    Operation.Ends (answer stamp faults) c.perform s Q :=
  ends_call_told (fun e s' h _ => hrefused e s' h) hgranted

theorem answer_of_isRead {c : Call} (h : c.isRead = true) :
    (answer stamp faults s c).2.snapshot = s.snapshot := by
  unfold answer
  split
  . rfl
  . have hkept := s.memory.answer_of_isRead stamp h
    exact snapshot_congr hkept.1 hkept.2

theorem Refused.snapshot {c : Call} (h : s.Refused c s') : s'.snapshot = s.snapshot :=
  snapshot_congr h.store h.board

namespace Granted

theorem of_isRead {c : Call} {a : c.Answer} (h : Granted stamp s c a s') (hread : c.isRead = true) :
    s'.memory.store = s.memory.store ∧ s'.memory.board = s.memory.board := by
  rw [h.memory]
  exact s.memory.answer_of_isRead stamp hread

theorem stored {c : StoreCall} {a : c.Answer} (h : Granted stamp s (.store c) a s') :
    s'.snapshot = s.snapshot.stored c a := by
  rcases s.memory.store.intervals_answer stamp c with ⟨b, hok, hintervals⟩ | ⟨e, herr⟩
  . have hb : Except.ok a = Except.ok b := h.answer.symm.trans hok
    cases hb
    unfold snapshot
    rw [h.memory]
    exact Snapshot.ext hintervals rfl
  . have herr : (s.memory.answer stamp (.store c)).1 = .error e := congrArg Prod.fst herr
    exact absurd (h.answer.symm.trans herr) (by simp)

theorem pointed {update : PointerUpdate} {a : Unit} (h : Granted stamp s (.setPointer update) a s') :
    s'.snapshot = s.snapshot.pointed update := by
  unfold snapshot
  rw [h.memory]
  exact Memory.snapshot_set s.memory update

end Granted

end Attempt

end StatusTimeline
