import StatusTimeline.Proofs.Engine.Attempt

/-!
This module contains the calls that an execution makes, each with what it is answered, and programs that are confined to
calls of some kind, whatever they are answered. A confined program cannot tell collaborators apart that answer those
calls alike.
-/

namespace StatusTimeline

variable {σ α β : Type}

namespace Program

/--
The calls that a program makes, in their order, with their answers.
-/
def calls (answer : Answering σ) : Program α → σ → List Answered
  | done _, _ => []
  | call c next, s => ⟨c, (answer s c).1⟩ :: (next (answer s c).1).calls answer (answer s c).2

theorem calls_bind (answer : Answering σ) (p : Program α) (f : α → Program β) (s : σ) :
    (p.bind f).calls answer s =
      p.calls answer s ++ (f (p.run answer s).1).calls answer (p.run answer s).2 := by
  induction p generalizing s with
  | done a => rfl
  | call c next ih => simp only [bind_call, calls, run, ih, List.cons_append]

/--
Whether all calls that a program may make are of one kind.
-/
def Confined (P : Call → Prop) : Program α → Prop
  | done _ => True
  | call c next => P c ∧ ∀ answer, (next answer).Confined P

variable {P : Call → Prop} {p : Program α}

theorem Confined.mono {Q : Call → Prop} (h : p.Confined P) (himp : ∀ c, P c → Q c) : p.Confined Q := by
  induction p with
  | done a => trivial
  | call c next ih => exact ⟨himp c h.1, fun answer => ih answer (h.2 answer)⟩

theorem Confined.bind {f : α → Program β} (hp : p.Confined P) (hf : ∀ a, (f a).Confined P) :
    (p.bind f).Confined P := by
  induction p with
  | done a => exact hf a
  | call c next ih => exact ⟨hp.1, fun answer => ih answer (hp.2 answer)⟩

theorem Confined.calls {answer : Answering σ} {s : σ} (h : p.Confined P) : ∀ x ∈ p.calls answer s, P x.call := by
  induction p generalizing s with
  | done a => simp [Program.calls]
  | call c next ih =>
    rw [Program.calls, List.forall_mem_cons]
    exact ⟨h.1, ih _ (h.2 _)⟩

theorem Confined.run_induction {answer : Answering σ} {I : σ → Prop} (h : p.Confined P)
    (hstep : ∀ s c, P c → I s → I (answer s c).2) {s : σ} (hs : I s) : I (p.run answer s).2 := by
  induction p generalizing s with
  | done a => exact hs
  | call c next ih => exact ih _ (h.2 _) (hstep s c h.1 hs)

theorem Confined.run_congr {answer answer' : Answering σ} (h : p.Confined P)
    (heq : ∀ s c, P c → answer' s c = answer s c) (s : σ) : p.run answer' s = p.run answer s := by
  induction p generalizing s with
  | done a => rfl
  | call c next ih => rw [run, run, heq s c h.1, ih _ (h.2 _)]

end Program

namespace Operation

def calls (answer : Answering σ) (x : Operation α) (s : σ) : List Answered := x.run.calls answer s

def Confined (P : Call → Prop) (x : Operation α) : Prop := x.run.Confined P

section Calls

variable (answer : Answering σ) (s : σ)

theorem calls_bind (x : Operation α) (f : α → Operation β) :
    calls answer (x >>= f) s =
      calls answer x s ++
        match execute answer x s with
        | (.ok a, s) => calls answer (f a) s
        | (.error _, _) => [] := by
  have h : (x >>= f).run = x.run.bind (ExceptT.bindCont f) := rfl
  unfold calls execute
  rw [h, Program.calls_bind]
  cases x.run.run answer s with
  | mk a s => cases a <;> rfl

/--
The lock of an operation that is granted is given back in the last call.
-/
theorem calls_locked (monitor : Uuid) (body : Operation α) :
    calls answer (Engine.locked monitor body) s =
      match answer s (.lock (Engine.lockKey monitor)) with
      | (.ok token, s) =>
        ⟨.lock (Engine.lockKey monitor), .ok token⟩ :: (calls answer body s ++
          [⟨.release token, (answer (execute answer body s).2 (.release token)).1⟩])
      | (.error e, _) => [⟨.lock (Engine.lockKey monitor), .error e⟩] := by
  have hlock : calls answer (Call.lock (Engine.lockKey monitor)).perform s =
      [⟨.lock (Engine.lockKey monitor), (answer s (.lock (Engine.lockKey monitor))).1⟩] := rfl
  unfold Engine.locked
  rw [calls_bind, hlock, execute_call]
  cases answer s (.lock (Engine.lockKey monitor)) with
  | mk token s =>
    cases token with
    | error e => rfl
    | ok token =>
      show _ :: calls answer (Engine.finish token body) s = _
      unfold calls
      rw [run_finish, Program.calls_bind]
      rfl

end Calls

section Confined

variable {P : Call → Prop}

theorem confined_pure (a : α) : Confined P (pure a) := trivial

theorem confined_throw (e : Error) : Confined P (throw e : Operation α) := trivial

theorem confined_call {c : Call} (h : P c) : Confined P c.perform := ⟨h, fun _ => trivial⟩

theorem confined_bind {x : Operation α} {f : α → Operation β} (hx : Confined P x) (hf : ∀ a, Confined P (f a)) :
    Confined P (x >>= f) := by
  apply Program.Confined.bind hx
  intro outcome
  cases outcome with
  | ok a => exact hf a
  | error e => trivial

theorem confined_tryCatch {x : Operation α} {f : Error → Operation α} (hx : Confined P x)
    (hf : ∀ e, Confined P (f e)) : Confined P (tryCatch x f) := by
  unfold Confined
  rw [run_tryCatch]
  apply Program.Confined.bind hx
  intro outcome
  cases outcome with
  | ok a => trivial
  | error e => exact hf e

theorem confined_locked {monitor : Uuid} {body : Operation α} (hlock : P (.lock (Engine.lockKey monitor)))
    (hrelease : ∀ token, P (.release token)) (hbody : Confined P body) : Confined P (Engine.locked monitor body) := by
  apply confined_bind (confined_call hlock)
  intro token
  show (Engine.finish token body).run.Confined P
  rw [run_finish]
  exact Program.Confined.bind hbody fun _ => ⟨hrelease token, fun _ => trivial⟩

theorem Confined.mem {x : Operation α} {answer : Answering σ} {s : σ} (h : x.Confined P) :
    ∀ y ∈ x.calls answer s, P y.call := Program.Confined.calls h

theorem Confined.execute_congr {x : Operation α} {answer answer' : Answering σ} (h : x.Confined P)
    (heq : ∀ s c, P c → answer' s c = answer s c) (s : σ) : x.execute answer' s = x.execute answer s :=
  Program.Confined.run_congr h heq s

end Confined

end Operation

end StatusTimeline
