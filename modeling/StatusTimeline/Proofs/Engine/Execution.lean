import StatusTimeline.Engine

/-!
This module contains the execution of operations by collaborators of any kind, which answer one call after another, and
the rules by which the result of an operation is found from those of its parts. There are such rules for one execution,
and for two of the same operation by different collaborators.
-/

namespace StatusTimeline

/--
How collaborators answer a call in the state they are in, and the state that leaves them in.
-/
abbrev Answering (σ : Type) := σ → (c : Call) → Except Error c.Answer × σ

namespace Operation

variable {σ τ α β : Type}

def execute (answer : Answering σ) (x : Operation α) (s : σ) : Except Error α × σ := x.run.run answer s

variable (answer : Answering σ) (s : σ)

theorem execute_call (c : Call) : execute answer c.perform s = answer s c := rfl

theorem execute_bind (x : Operation α) (f : α → Operation β) :
    execute answer (x >>= f) s =
      match execute answer x s with
      | (.ok a, s) => execute answer (f a) s
      | (.error e, s) => (.error e, s) := by
  have h : (x >>= f).run = x.run.bind (ExceptT.bindCont f) := rfl
  unfold execute
  rw [h, Program.run_bind]
  cases x.run.run answer s with
  | mk a s => cases a <;> rfl

theorem run_tryCatch (x : Operation α) (f : Error → Operation α) :
    (tryCatch x f).run = x.run.bind fun
      | .ok a => .done (.ok a)
      | .error e => (f e).run := by
  show Program.bind _ _ = _
  congr 1
  funext outcome
  cases outcome <;> rfl

theorem execute_tryCatch (x : Operation α) (f : Error → Operation α) :
    execute answer (tryCatch x f) s =
      match execute answer x s with
      | (.ok a, s) => (.ok a, s)
      | (.error e, s) => execute answer (f e) s := by
  unfold execute
  rw [run_tryCatch, Program.run_bind]
  cases x.run.run answer s with
  | mk a s => cases a <;> rfl

/--
What an operation under a lock comes to, from its own result and that of giving the lock back.
-/
def finished : Except Error α → Except Error Unit → Except Error α
  | .ok a, .ok _ => .ok a
  | .ok _, .error e => .error e
  | .error e, _ => .error e

theorem finished_ok (outcome : Except Error α) : finished outcome (.ok ()) = outcome := by cases outcome <;> rfl

theorem run_finish (token : Token) (body : Operation α) :
    (Engine.finish token body).run = body.run.bind fun outcome =>
      .call (.release token) fun released => .done (finished outcome released) := by
  show Program.bind _ _ = _
  congr 1
  funext outcome
  show Program.call _ _ = _
  congr 1
  funext released
  cases outcome <;> cases released <;> rfl

theorem execute_finish (token : Token) (body : Operation α) :
    execute answer (Engine.finish token body) s =
      match execute answer body s with
      | (outcome, s) => (finished outcome (answer s (.release token)).1, (answer s (.release token)).2) := by
  unfold execute
  rw [run_finish, Program.run_bind]
  rfl

theorem execute_locked (monitor : Uuid) (body : Operation α) :
    execute answer (Engine.locked monitor body) s =
      match answer s (.lock (Engine.lockKey monitor)) with
      | (.ok token, s) =>
        match execute answer body s with
        | (outcome, s) => (finished outcome (answer s (.release token)).1, (answer s (.release token)).2)
      | (.error e, s) => (.error e, s) := by
  unfold Engine.locked
  rw [execute_bind, execute_call]
  cases answer s (.lock (Engine.lockKey monitor)) with
  | mk token s =>
    cases token with
    | ok token => exact execute_finish answer s token body
    | error e => rfl

/--
Whether what an operation comes to, and the state that it leaves, are as told.
-/
def Ends (answer : Answering σ) (x : Operation α) (s : σ) (Q : Except Error α → σ → Prop) : Prop :=
  Q (execute answer x s).1 (execute answer x s).2

section Ends

variable {answer s} {Q : Except Error α → σ → Prop}

theorem Ends.mono {Q' : Except Error α → σ → Prop} {x : Operation α} (h : Ends answer x s Q)
    (himp : ∀ outcome s', Q outcome s' → Q' outcome s') : Ends answer x s Q' := himp _ _ h

theorem ends_pure {a : α} (h : Q (.ok a) s) : Ends answer (pure a) s Q := h

theorem ends_throw {e : Error} (h : Q (.error e) s) : Ends answer (throw e) s Q := h

theorem ends_any {x : Operation α} (h : ∀ outcome s', Q outcome s') : Ends answer x s Q := h _ _

theorem ends_answered {c : Call} {Q : Except Error c.Answer → σ → Prop}
    (h : ∀ outcome, Q outcome (answer s c).2) : Ends answer c.perform s Q := h _

theorem ends_bind {x : Operation β} {f : β → Operation α}
    (h : Ends answer x s fun outcome s' =>
      match outcome with
      | .ok b => Ends answer (f b) s' Q
      | .error e => Q (.error e) s') : Ends answer (x >>= f) s Q := by
  unfold Ends at h ⊢
  rw [execute_bind]
  cases hx : execute answer x s with
  | mk outcome s' =>
    rw [hx] at h
    cases outcome <;> exact h

theorem ends_tryCatch {x : Operation α} {f : Error → Operation α}
    (h : Ends answer x s fun outcome s' =>
      match outcome with
      | .ok a => Q (.ok a) s'
      | .error e => Ends answer (f e) s' Q) : Ends answer (tryCatch x f) s Q := by
  unfold Ends at h ⊢
  rw [execute_tryCatch]
  cases hx : execute answer x s with
  | mk outcome s' =>
    rw [hx] at h
    cases outcome <;> exact h

theorem ends_finish {token : Token} {body : Operation α}
    (h : Ends answer body s fun outcome s' =>
      Q (finished outcome (answer s' (.release token)).1) (answer s' (.release token)).2) :
    Ends answer (Engine.finish token body) s Q := by
  unfold Ends at h ⊢
  rw [execute_finish]
  exact h

end Ends

/--
Whether an operation comes to the same with two kinds of collaborators, and what it comes to and the states that it
leaves are as told.
-/
def Agrees (answer : Answering σ) (answer' : Answering τ) (x : Operation α) (s : σ) (t : τ)
    (Q : Except Error α → σ → τ → Prop) : Prop :=
  (execute answer' x t).1 = (execute answer x s).1 ∧
    Q (execute answer x s).1 (execute answer x s).2 (execute answer' x t).2

section Agrees

variable {answer s} {answer' : Answering τ} {t : τ} {Q : Except Error α → σ → τ → Prop}

theorem Agrees.mono {Q' : Except Error α → σ → τ → Prop} {x : Operation α} (h : Agrees answer answer' x s t Q)
    (himp : ∀ outcome s' t', Q outcome s' t' → Q' outcome s' t') : Agrees answer answer' x s t Q' :=
  ⟨h.1, himp _ _ _ h.2⟩

theorem agrees_pure {a : α} (h : Q (.ok a) s t) : Agrees answer answer' (pure a) s t Q := ⟨rfl, h⟩

theorem agrees_throw {e : Error} (h : Q (.error e) s t) : Agrees answer answer' (throw e) s t Q := ⟨rfl, h⟩

theorem agrees_call {c : Call} {Q : Except Error c.Answer → σ → τ → Prop} {a : Except Error c.Answer} {s₁ : σ} {t₁ : τ}
    (hanswer : answer s c = (a, s₁)) (hanswer' : answer' t c = (a, t₁)) (h : Q a s₁ t₁) :
    Agrees answer answer' c.perform s t Q := by
  unfold Agrees
  rw [execute_call, execute_call, hanswer, hanswer']
  exact ⟨rfl, h⟩

theorem agrees_bind {x : Operation β} {f : β → Operation α}
    (h : Agrees answer answer' x s t fun outcome s' t' =>
      match outcome with
      | .ok b => Agrees answer answer' (f b) s' t' Q
      | .error e => Q (.error e) s' t') : Agrees answer answer' (x >>= f) s t Q := by
  unfold Agrees at h ⊢
  rw [execute_bind, execute_bind]
  cases hx : execute answer x s with
  | mk outcome s' =>
    cases hx' : execute answer' x t with
    | mk outcome' t' =>
      rw [hx, hx'] at h
      obtain ⟨rfl, h⟩ := h
      cases outcome' with
      | ok b => exact h
      | error e => exact ⟨rfl, h⟩

theorem agrees_tryCatch {x : Operation α} {f : Error → Operation α}
    (h : Agrees answer answer' x s t fun outcome s' t' =>
      match outcome with
      | .ok a => Q (.ok a) s' t'
      | .error e => Agrees answer answer' (f e) s' t' Q) : Agrees answer answer' (tryCatch x f) s t Q := by
  unfold Agrees at h ⊢
  rw [execute_tryCatch, execute_tryCatch]
  cases hx : execute answer x s with
  | mk outcome s' =>
    cases hx' : execute answer' x t with
    | mk outcome' t' =>
      rw [hx, hx'] at h
      obtain ⟨rfl, h⟩ := h
      cases outcome' with
      | ok a => exact ⟨rfl, h⟩
      | error e => exact h

/--
Where the lock is granted to both, and both can give it back, the bodies decide.
-/
theorem agrees_locked {monitor : Uuid} {body : Operation α} {token token' : Token} {s₁ : σ} {t₁ : τ}
    (hlock : answer s (.lock (Engine.lockKey monitor)) = (.ok token, s₁))
    (hlock' : answer' t (.lock (Engine.lockKey monitor)) = (.ok token', t₁))
    (h : Agrees answer answer' body s₁ t₁ fun outcome s₂ t₂ =>
      ∃ s₃ t₃, answer s₂ (.release token) = (.ok (), s₃) ∧ answer' t₂ (.release token') = (.ok (), t₃) ∧
        Q outcome s₃ t₃) : Agrees answer answer' (Engine.locked monitor body) s t Q := by
  obtain ⟨heq, s₃, t₃, hrelease, hrelease', hQ⟩ := h
  unfold Agrees
  rw [execute_locked, execute_locked, hlock, hlock']
  simp only [heq, hrelease, hrelease', finished_ok]
  exact ⟨trivial, hQ⟩

end Agrees

end Operation

end StatusTimeline
