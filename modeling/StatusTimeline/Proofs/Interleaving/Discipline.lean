import StatusTimeline.Proofs.Engine.Whole
import StatusTimeline.Proofs.Interleaving.State

/-!
This module contains a logic for clients that are interleaved. A discipline says what holds of the shared state at
all times, and what a client may rely on while others go on. A program is safe when each of its calls, made
whenever the others let it, keeps to the discipline. Where all clients run safe programs the discipline holds
in every state, and every result is as specified.
-/

namespace StatusTimeline.Interleaving

/--
A discipline for clients. Its states may hold more than what is shared.
-/
structure Discipline (σ : Type) where
  view : σ → Shared
  inv : σ → Prop
  /-- What a client may rely on from one of its calls to the next. -/
  rely : Nat → σ → σ → Prop
  promise : Nat → σ → σ → Prop
  rely_refl : ∀ i s, rely i s s
  rely_trans : ∀ i s s' s'', rely i s s' → rely i s' s'' → rely i s s''

namespace Discipline

variable {σ α β : Type} (D : Discipline σ)

/--
A client moves from a state to another one in keeping with the discipline.
-/
structure Moves (i : Nat) (s s' : σ) (shared : Shared) : Prop where
  view : D.view s' = shared
  inv : D.inv s'
  rely : ∀ j, j ≠ i → D.rely j s s'
  promise : D.promise i s s'

/--
Whatever others do, each call of a program keeps to the discipline, and its result meets `Q` when it is there.
-/
def Safe (i : Nat) (Q : α → σ → Prop) : Program α → σ → Prop
  | .done a, s => Q a s
  | .call c next, s => ∀ s', D.inv s' → D.rely i s s' →
      ∀ how answer shared, (D.view s').reply i how c = some (answer, shared) →
        ∃ s'', D.Moves i s' s'' shared ∧ Safe i Q (next answer) s''

/--
From the states in `P` an operation is safe and its result meets `Q`.
-/
def Spec (i : Nat) (P : σ → Prop) (x : Operation α) (Q : Except Error α → σ → Prop) : Prop :=
  ∀ s, D.inv s → P s → D.Safe i Q x.run s

variable {D} {i : Nat} {P : σ → Prop}

theorem Safe.bind {p : Program α} {f : α → Program β} {R : α → σ → Prop} {Q : β → σ → Prop} {s : σ}
    (hs : D.inv s) (hp : D.Safe i R p s) (hf : ∀ a s, D.inv s → R a s → D.Safe i Q (f a) s) :
    D.Safe i Q (p.bind f) s := by
  -- the calls of the first program come first, and the state in which it is done is as it promises
  induction p generalizing s with
  | done a => exact hf a s hs hp
  | call c next ih =>
    intro s' hs' hrely how answer shared hreply
    obtain ⟨s'', hmoves, hsafe⟩ := hp s' hs' hrely how answer shared hreply
    exact ⟨s'', hmoves, ih answer hmoves.inv hsafe⟩

section Rules

variable {x : Operation α} {f : α → Operation β}

theorem spec_pure {a : α} {Q : Except Error α → σ → Prop} (h : ∀ s, D.inv s → P s → Q (.ok a) s) :
    D.Spec i P (pure a) Q :=
  h

theorem spec_throw {e : Error} {Q : Except Error α → σ → Prop}
    (h : ∀ s, D.inv s → P s → Q (.error e) s) : D.Spec i P (throw e) Q :=
  h

theorem spec_bind {R : Except Error α → σ → Prop} {Q : Except Error β → σ → Prop} (hx : D.Spec i P x R)
    (hok : ∀ a, D.Spec i (R (.ok a)) (f a) Q)
    (herror : ∀ e s, D.inv s → R (.error e) s → Q (.error e) s) : D.Spec i P (x >>= f) Q := by
  intro s hs hP
  apply Safe.bind hs (hx s hs hP)
  intro outcome s' hs' hR
  cases outcome with
  | ok a => exact hok a s' hs' hR
  | error e => exact herror e s' hs' hR

theorem spec_tryCatch {g : Error → Operation α} {R Q : Except Error α → σ → Prop} (hx : D.Spec i P x R)
    (hok : ∀ a s, D.inv s → R (.ok a) s → Q (.ok a) s)
    (herror : ∀ e, D.Spec i (R (.error e)) (g e) Q) : D.Spec i P (tryCatch x g) Q := by
  intro s hs hP
  apply Safe.bind hs (hx s hs hP)
  intro outcome s' hs' hR
  cases outcome with
  | ok a => exact hok a s' hs' hR
  | error e => exact herror e s' hs' hR

theorem spec_finish {token : Token} {R Q : Except Error α → σ → Prop} (hx : D.Spec i P x R)
    (hrelease : ∀ outcome, D.Spec i (R outcome) (Call.release token).perform fun released =>
      Q (match outcome, released with
        | .ok a, .ok _ => .ok a
        | .ok _, .error e => .error e
        | .error e, _ => .error e)) : D.Spec i P (Engine.finish token x) Q := by
  intro s hs hP
  apply Safe.bind hs (hx s hs hP)
  intro outcome s' hs' hR
  apply Safe.bind hs' (hrelease outcome s' hs' hR)
  intro released s'' _ hQ
  exact hQ

/--
A call is made in a state to which others have led from one in `P`.
-/
theorem spec_call {c : Call} {Q : Except Error c.Answer → σ → Prop}
    (h : ∀ s₀ s, D.inv s₀ → P s₀ → D.inv s → D.rely i s₀ s → ∀ how answer shared,
      (D.view s).reply i how c = some (answer, shared) → ∃ s', D.Moves i s s' shared ∧ Q answer s') :
    D.Spec i P c.perform Q := by
  intro s₀ hs₀ hP s hs hrely how answer shared hreply
  exact h s₀ s hs₀ hP hs hrely how answer shared hreply

theorem spec_weaken {R : σ → Prop} {Q : Except Error α → σ → Prop} (hx : D.Spec i R x Q)
    (h : ∀ s, D.inv s → P s → R s) : D.Spec i P x Q :=
  fun s hs hP => hx s hs (h s hs hP)

/--
A root cause is found by at most one search, and is what the directory gives then.
-/
theorem spec_rootCause {e : Engine} {r : ChangeRequest}
    (hsearch : ∀ user, D.Spec i P (Call.resolve user).perform fun outcome s =>
      P s ∧ outcome = .ok (.ofSearch ((D.view s).memory.directory.find? user))) :
    D.Spec i P (e.rootCause r) fun outcome s => P s ∧ outcome = .ok ((D.view s).memory.rootCause e r) := by
  have hpure : ∀ (R : σ → Prop) (a : Option String),
      (∀ s, R s → P s ∧ a = (D.view s).memory.rootCause e r) →
        D.Spec i R (pure a) fun outcome s => P s ∧ outcome = .ok ((D.view s).memory.rootCause e r) := by
    intro R a h
    apply spec_pure
    intro s _ hR
    exact ⟨(h s hR).1, congrArg Except.ok (h s hR).2⟩
  unfold Engine.rootCause
  split
  . next given heq =>
    apply hpure
    intro s h
    exact ⟨h, by simp [Memory.rootCause, heq]⟩
  . next heq =>
    unfold Engine.annotate
    split
    . next user huser =>
      split
      . next hd =>
        apply hpure
        intro s h
        exact ⟨h, by simp_all [Memory.rootCause]⟩
      . next hd =>
        -- only here the directory is asked, and its failures are caught
        apply spec_bind (R := fun outcome s =>
          P s ∧ outcome = .ok (.ofSearch ((D.view s).memory.directory.find? user)))
        . apply spec_tryCatch (hsearch user) (fun _ _ _ h => h)
          intro err s _ h
          cases h.2
        . intro answer
          have hnamed := hpure (fun s => P s ∧
            (.ok answer : Except Error Lookup) = .ok (.ofSearch ((D.view s).memory.directory.find? user)))
            (Memory.namedCause answer) (by
              intro s h
              refine ⟨h.1, ?_⟩
              rw [Memory.rootCause_of_search heq huser (by simpa using hd), Except.ok.inj h.2])
          cases answer <;> exact hnamed
        . intro err s _ h
          cases h.2
    . next hnone =>
      apply hpure
      intro s h
      refine ⟨h, ?_⟩
      cases hu : r.initiatingUser with
      | none => simp [Memory.rootCause, heq, hu]
      | some user => exact absurd hu (hnone user)

end Rules

/--
What the result of a client has to meet, by its number, its request and the clients served before it began.
-/
abbrev Goal (σ : Type) := (i : Nat) → (r : Request) → List Nat → Except Error r.Answer → σ → Prop

/--
The discipline holds, and what is left of each client's program is safe since the client's last call.
-/
structure Coherent (D : Discipline σ) (goal : Goal σ) (s : σ) (st : State) : Prop where
  view : D.view s = st.shared
  inv : D.inv s
  safe : ∀ i c, st.client? i = some c →
    ∃ s₀, D.inv s₀ ∧ D.rely i s₀ s ∧ D.Safe i (goal i c.request c.after) c.rest s₀

variable {goal : Goal σ} {s s' : σ} {st : State}

/--
What a client relied on before a call of another one it can rely on after it.
-/
theorem Coherent.others (h : D.Coherent goal s st) {i j : Nat} {c : Client} (hc : st.client? j = some c)
    (hrely : ∀ j, j ≠ i → D.rely j s s') (hj : j ≠ i) :
    ∃ s₀, D.inv s₀ ∧ D.rely j s₀ s' ∧ D.Safe j (goal j c.request c.after) c.rest s₀ := by
  obtain ⟨s₀, hs₀, hr, hsafe⟩ := h.safe j c hc
  exact ⟨s₀, hs₀, D.rely_trans j s₀ s s' hr (hrely j hj), hsafe⟩

theorem Coherent.advance {e : Engine} {st' : State} (h : D.Coherent goal s st) {i : Nat} {how : Reply}
    (hn : next e st (.advance i how) = some st') :
    ∃ s', D.Coherent goal s' st' ∧ D.promise i s s' := by
  simp only [next] at hn
  split at hn
  . next request c next after hc =>
    rw [Option.map_eq_some_iff] at hn
    obtain ⟨⟨answer, shared⟩, hreply, rfl⟩ := hn
    obtain ⟨s₀, hs₀, hrely, hsafe⟩ := h.safe i _ hc
    rw [← h.view] at hreply
    obtain ⟨s', hmoves, hsafe'⟩ := hsafe s h.inv hrely how answer shared hreply
    refine ⟨s', ⟨hmoves.view, hmoves.inv, ?_⟩, hmoves.promise⟩
    -- the client whose call was answered starts anew, and the others could rely on it
    intro j c' hc'
    rw [State.client?_set (State.client?_lt hc)] at hc'
    split at hc'
    . next hji =>
      cases hc'
      subst hji
      exact ⟨s', hmoves.inv, D.rely_refl j s', hsafe'⟩
    . next hji => exact h.others hc' hmoves.rely hji
  . cases hn

theorem Coherent.begin {e : Engine} {st' : State} (h : D.Coherent goal s st) {r : Request}
    (hn : next e st (.begin r) = some st') (hview : D.view s' = D.view s) (hs' : D.inv s')
    (hrely : ∀ j, j ≠ st.clients.length → D.rely j s s')
    (hsafe : D.Safe st.clients.length (goal st.clients.length r st.served) (r.operation e).run s') :
    D.Coherent goal s' st' := by
  simp only [next, Option.some.injEq] at hn
  subst hn
  refine ⟨hview.trans h.view, hs', ?_⟩
  intro j c hc
  rw [State.client?_concat] at hc
  split at hc
  . next hj =>
    subst hj
    cases hc
    exact ⟨s', hs', D.rely_refl _ s', hsafe⟩
  . next hj => exact h.others hc hrely hj

theorem Coherent.cancel {e : Engine} {st' : State} (h : D.Coherent goal s st) {i : Nat}
    (hn : next e st (.cancel i) = some st') (hview : D.view s' = (D.view s).freeAll i) (hs' : D.inv s')
    (hrely : ∀ j, j ≠ i → D.rely j s s') : D.Coherent goal s' st' := by
  simp only [next] at hn
  split at hn
  . next c hc =>
    cases hn
    refine ⟨by rw [hview, h.view], hs', ?_⟩
    intro j c' hc'
    rw [State.client?_set (State.client?_lt hc)] at hc'
    split at hc'
    . cases hc'
    . next hji => exact h.others hc' hrely hji
  . cases hn

/--
A client that has finished met its goal when it made its last call.
-/
theorem Coherent.met (h : D.Coherent goal s st) {i : Nat} {c : Client} (hc : st.client? i = some c)
    {result : Except Error c.request.Answer} (hr : c.result? = some result) :
    ∃ s₀, D.inv s₀ ∧ D.rely i s₀ s ∧ goal i c.request c.after result s₀ := by
  obtain ⟨s₀, hs₀, hrely, hsafe⟩ := h.safe i c hc
  refine ⟨s₀, hs₀, hrely, ?_⟩
  unfold Client.result? at hr
  split at hr
  . next a heq =>
    cases hr
    rw [heq] at hsafe
    exact hsafe
  . cases hr

theorem coherent_start {shared : Shared} (hview : D.view s = shared) (hs : D.inv s) :
    D.Coherent goal s { shared } := by
  refine ⟨hview, hs, ?_⟩
  intro i c hc
  simp [State.client?] at hc

end Discipline

end StatusTimeline.Interleaving
