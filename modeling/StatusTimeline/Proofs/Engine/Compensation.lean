import StatusTimeline.Proofs.Engine.Attempt
import StatusTimeline.Proofs.Store.Compound

/-!
This module contains appends and deletions by several calls to the store, any of which may fail. What one that fails
leaves behind is told by the calls that have failed: an append removes its new interval again, and a deletion repairs
before it removes.
-/

namespace StatusTimeline

def Answered.error? (x : Answered) : Option Error :=
  match x.answer with
  | .ok _ => none
  | .error e => some e

/--
The error of the first call that has failed.
-/
def firstError? (calls : List Answered) : Option Error := calls.findSome? (·.error?)

/--
The calls that were to close an interval at the creation of another one and to remove that one again have both failed.
-/
def Interval.Stranded (made : Interval) (calls : List Answered) : Prop :=
  (∃ prior err, (⟨.store (.updateEndsAt prior (some made.createdAt)), .error err⟩ : Answered) ∈ calls) ∧
    ∃ err, (⟨.store (.delete made.id), .error err⟩ : Answered) ∈ calls

/--
The calls have repaired an interval as it was planned, and have failed to remove the target.
-/
def DeletionPlan.Halted (plan : DeletionPlan) (repair : EndRepair) (calls : List Answered) : Prop :=
  plan.repair = some repair ∧
    (⟨.store (.updateEndsAt repair.intervalId repair.endsAt), .ok ()⟩ : Answered) ∈ calls ∧
    ∃ err, (⟨.store (.delete plan.target), .error err⟩ : Answered) ∈ calls

namespace Attempt

/--
An append to a store with the intervals `is`. Where it fails, it tells of the first call that has failed and leaves the
intervals as they were, unless the new one is stranded.
-/
structure Appends (made : Interval) (close : Option Uuid) (is : List Interval) (outcome : Except Error Interval)
    (s : Attempt) : Prop where
  first : ∀ err, outcome = .error err → firstError? s.calls = some err
  kept : ∀ err, outcome = .error err → ¬ made.Stranded s.calls → s.snapshot.intervals = is
  stranded : ∀ err, outcome = .error err → made.Stranded s.calls →
    made.isOpen = true ∧ s.snapshot.intervals = is ++ [made]
  added : ∀ created, outcome = .ok created →
    created = made ∧ s.snapshot.intervals = Interval.closing close made.createdAt (is ++ [made])

/--
A deletion by a plan from a store with the intervals `is`. Where it fails, it tells of the first call that has failed,
the target is still there, and nothing has changed but the end of the interval to repair, when that is where it halted.
-/
structure Deletes (plan : DeletionPlan) (is : List Interval) (outcome : Except Error Unit) (s : Attempt) : Prop where
  first : ∀ err, outcome = .error err → firstError? s.calls = some err
  held : ∀ err, outcome = .error err → ¬ Interval.Absent plan.target is →
    ¬ Interval.Absent plan.target s.snapshot.intervals
  kept : ∀ err, outcome = .error err → (∀ repair, ¬ plan.Halted repair s.calls) → s.snapshot.intervals = is
  halted : ∀ err repair, outcome = .error err → plan.Halted repair s.calls →
    s.snapshot.intervals = is.map (Interval.endAt repair.intervalId repair.endsAt)
  removed : outcome = .ok () → s.snapshot.intervals = plan.applyTo is

variable {m : Memory} {stamp : Stamp} {faults : Nat → Option Error} {new : NewInterval} {close : Option Uuid}
  {plan : DeletionPlan}

theorem filter_concat_of_absent {made : Interval} {is : List Interval} (h : Interval.Absent made.id is) :
    (is ++ [made]).filter (·.id ≠ made.id) = is := by
  rw [List.filter_append, Interval.filter_id_of_ne h]
  simp

section Append

variable {made : Interval} {prior : Uuid} {is : List Interval} {s : Attempt}

/--
The calls that close an interval and, when that fails, remove the new one again.
-/
theorem closeOut (hmade : made.isOpen = true) (habsent : Interval.Absent made.id is)
    (hcalls : s.calls = [⟨.store (.insert new), .ok made⟩]) (hs : s.snapshot.intervals = is ++ [made]) :
    Operation.Ends (answer stamp faults)
      (tryCatch (StoreCall.updateEndsAt prior (some made.createdAt)).perform
        (fun e => do
          tryCatch (StoreCall.delete made.id).perform fun _ => return ()
          throw e)) s
      fun outcome s' => Appends made (some prior) is (outcome.map fun _ => made) s' := by
  apply Operation.ends_tryCatch
  apply ends_call_told
  . intro err s₁ hc hcalls₁
    rw [hcalls, List.singleton_append] at hcalls₁
    have hs₁ : s₁.snapshot.intervals = is ++ [made] := by rw [hc.snapshot, hs]
    apply Operation.ends_bind
    apply Operation.ends_tryCatch
    apply ends_call_told
    . -- the new interval stays
      intro err' s₂ hc' hcalls₂
      rw [hcalls₁] at hcalls₂
      have hs₂ : s₂.snapshot.intervals = is ++ [made] := by rw [hc'.snapshot, hs₁]
      apply Operation.ends_pure
      apply Operation.ends_throw
      refine ⟨?_, ?_, fun _ _ _ => ⟨hmade, hs₂⟩, nofun⟩
      . rintro _ ⟨⟩
        simp [hcalls₂, firstError?, Answered.error?]
      . intro _ _ hnot
        refine absurd ⟨⟨prior, err, ?_⟩, err', ?_⟩ hnot <;> simp [hcalls₂]
    . intro _ s₂ hc'
      have hcalls₂ := hc'.calls
      rw [hcalls₁] at hcalls₂
      have hs₂ : s₂.snapshot.intervals = is := by
        rw [hc'.stored]
        show s₁.snapshot.intervals.filter (·.id ≠ made.id) = is
        rw [hs₁, filter_concat_of_absent habsent]
      apply Operation.ends_throw
      refine ⟨?_, fun _ _ _ => hs₂, ?_, nofun⟩
      . rintro _ ⟨⟩
        simp [hcalls₂, firstError?, Answered.error?]
      . rintro _ _ ⟨_, err', hfailed⟩
        simp [hcalls₂] at hfailed
  . intro _ s₁ hc
    refine ⟨nofun, nofun, nofun, ?_⟩
    rintro _ ⟨⟩
    refine ⟨rfl, ?_⟩
    rw [hc.stored]
    show s.snapshot.intervals.map (Interval.endAt prior (some made.createdAt)) = _
    rw [hs]
    rfl

end Append

theorem appendStepwise (hf : m.store.contains stamp.id = false) :
    Operation.Ends (answer stamp faults) (Engine.appendStepwise new close) { memory := m }
      (Appends (new.materialise stamp.id (m.store.nextCreatedAt stamp.now)) close m.store.intervals) := by
  have habsent : Interval.Absent stamp.id m.store.intervals := Store.absent_iff.2 hf
  unfold Engine.appendStepwise
  apply Operation.ends_bind
  apply ends_call_told
  . intro err s₁ hc hcalls
    refine ⟨?_, fun _ _ _ => congrArg _ hc.snapshot, ?_, nofun⟩
    . rintro _ ⟨⟩
      simp [hcalls, firstError?, Answered.error?]
    . rintro _ _ ⟨_, err', hfailed⟩
      simp [hcalls] at hfailed
  . intro made s₁ hc
    have hmade : made = new.materialise stamp.id (m.store.nextCreatedAt stamp.now) := (Except.ok.inj hc.answer).symm
    have hs : s₁.snapshot.intervals = m.store.intervals ++ [made] := by
      rw [hc.stored]
      rfl
    subst hmade
    cases close with
    | none =>
      refine ⟨nofun, nofun, nofun, ?_⟩
      rintro _ ⟨⟩
      exact ⟨rfl, hs⟩
    | some prior =>
      apply Operation.ends_bind
      apply Operation.Ends.mono (closeOut rfl habsent hc.calls hs)
      intro outcome s₂ happends
      cases outcome <;> exact happends

theorem absent_map_endAt {id id' : Uuid} {e : Option Instant} {is : List Interval} :
    Interval.Absent id (is.map (Interval.endAt id' e)) ↔ Interval.Absent id is := by
  simp [Interval.Absent, Interval.endAt_id]

theorem Deletes.refused {c : Call} {err : Error} {is : List Interval} {s : Attempt} (hs : s.snapshot.intervals = is)
    (hcalls : s.calls = [⟨c, .error err⟩]) : Deletes plan is (.error err) s := by
  refine ⟨?_, fun _ _ hheld => hs ▸ hheld, fun _ _ _ => hs, ?_, nofun⟩
  . rintro _ ⟨⟩
    simp [hcalls, firstError?, Answered.error?]
  . -- no call was answered
    rintro _ repair _ ⟨_, hrepaired, _⟩
    rw [hcalls, List.mem_singleton] at hrepaired
    cases hrepaired

/--
The target stays where its removal has failed, and the repair is not taken back.
-/
theorem Deletes.halfway {repair : EndRepair} {err : Error} {is : List Interval} {s : Attempt}
    (hrepair : plan.repair = some repair)
    (hs : s.snapshot.intervals = is.map (Interval.endAt repair.intervalId repair.endsAt))
    (hcalls : s.calls = [⟨.store (.updateEndsAt repair.intervalId repair.endsAt), .ok ()⟩,
      ⟨.store (.delete plan.target), .error err⟩]) : Deletes plan is (.error err) s := by
  refine ⟨?_, ?_, ?_, ?_, nofun⟩
  . rintro _ ⟨⟩
    simp [hcalls, firstError?, Answered.error?]
  . intro _ _ hheld
    rw [hs, absent_map_endAt]
    exact hheld
  . intro _ _ hnot
    refine absurd ⟨hrepair, ?_, err, ?_⟩ (hnot repair) <;> simp [hcalls]
  . rintro _ repair' _ ⟨hrepair', _⟩
    cases hrepair.symm.trans hrepair'
    exact hs

theorem Deletes.done {is : List Interval} {s : Attempt} (hs : s.snapshot.intervals = plan.applyTo is) :
    Deletes plan is (.ok ()) s where
  first := nofun
  held := nofun
  kept := nofun
  halted := nofun
  removed _ := hs

theorem applyDeletionStepwise :
    Operation.Ends (answer stamp faults) (Engine.applyDeletionStepwise plan) { memory := m }
      (Deletes plan m.store.intervals) := by
  unfold Engine.applyDeletionStepwise
  cases hrepair : plan.repair with
  | none =>
    apply ends_call_told
    . intro err s₁ hc hcalls
      exact .refused (congrArg _ hc.snapshot) hcalls
    . intro _ s₁ hc
      apply Deletes.done
      rw [hc.stored]
      simp only [DeletionPlan.applyTo, hrepair]
      rfl
  | some repair =>
    apply Operation.ends_bind
    apply ends_call_told
    . intro err s₁ hc hcalls
      exact .refused (congrArg _ hc.snapshot) hcalls
    intro _ s₁ hc
    have hs₁ : s₁.snapshot.intervals = m.store.intervals.map (Interval.endAt repair.intervalId repair.endsAt) := by
      rw [hc.stored]
      rfl
    apply ends_call_told
    . intro err s₂ hc' hcalls
      rw [hc.calls] at hcalls
      apply Deletes.halfway hrepair _ hcalls
      rw [hc'.snapshot, hs₁]
    . intro _ s₂ hc'
      apply Deletes.done
      rw [hc'.stored]
      simp only [DeletionPlan.applyTo, hrepair]
      rw [← hs₁]
      rfl

end Attempt

namespace Memory

/--
Whichever of their calls fail, an append by several calls that fails leaves the intervals as they were unless its new
interval is stranded, and a deletion by several calls that fails has at most repaired.
-/
theorem stepwise_compensates (m : Memory) (stamp : Stamp) (hf : m.store.contains stamp.id = false)
    (faults : Nat → Option Error) (new : NewInterval) (close : Option Uuid) (plan : DeletionPlan) :
    Operation.Ends (Attempt.answer stamp faults) (Engine.appendStepwise new close) { memory := m }
        (Attempt.Appends (new.materialise stamp.id (m.store.nextCreatedAt stamp.now)) close m.store.intervals) ∧
      Operation.Ends (Attempt.answer stamp faults) (Engine.applyDeletionStepwise plan) { memory := m }
        (Attempt.Deletes plan m.store.intervals) :=
  ⟨Attempt.appendStepwise hf, Attempt.applyDeletionStepwise⟩

/--
Neither can the interval before the new one be closed nor the new one be removed again, as the second and the third call
fail. A deletion of which the second call fails has closed the interval that it was to repair.
-/
theorem stepwise_compensates_stranded :
    let m : Memory := { store := Compound.stored }
    let faults : Nat → Option Error := fun n =>
      if n = 1 then some (.database .poolTimedOut) else if n = 2 then some (.database .poolClosed) else none
    let plan : DeletionPlan :=
      { target := .ofSerial 11, repair := some { intervalId := .ofSerial 11, endsAt := some (.ofNanos 3000) } }
    let appended := (Engine.appendStepwise Compound.garbled (some (.ofSerial 11))).execute
      (Attempt.answer Compound.clocked faults) { memory := m }
    let deleted := (Engine.applyDeletionStepwise plan).execute (Attempt.answer Compound.clocked faults) { memory := m }
    m.store.contains Compound.clocked.id = false ∧ appended.1 = .error (.database .poolTimedOut) ∧
      appended.2.snapshot.intervals.map (·.endsAt) = [none, none] ∧ deleted.1 = .error (.database .poolTimedOut) ∧
      deleted.2.snapshot.intervals.map (·.endsAt) = [some (.ofNanos 3000)] := by
  intro m faults plan appended deleted
  have hf : m.store.contains Compound.clocked.id = false := by decide
  obtain ⟨happends, hdeletes⟩ :=
    stepwise_compensates m Compound.clocked hf faults Compound.garbled (some (.ofSerial 11)) plan
  have hstranded := (happends.stranded (.database .poolTimedOut) rfl
    ⟨⟨.ofSerial 11, _, .tail _ (.head _)⟩, _, .tail _ (.tail _ (.head _))⟩).2
  have hhalted := hdeletes.halted (.database .poolTimedOut) _ rfl ⟨rfl, .head _, _, .tail _ (.head _)⟩
  refine ⟨hf, rfl, ?_, rfl, ?_⟩
  . rw [hstranded]
    decide
  . rw [hhalted]
    decide

end Memory

end StatusTimeline
