import StatusTimeline.Proofs.Interleaving.Ledger

/-!
This module contains the rules by which calls keep to a ledger: looks at the store and at the directory, the pointers, the
locks, and the calls with which operations take effect. What a client does under a monitor's lock it ends
before it gives the lock back.
-/

namespace StatusTimeline.Interleaving

open Engine (lockKey)

/--
An operation answers what it answers when it is executed whole at its place in the order.
-/
def Done (e : Engine) (m : Memory) (i : Nat) (r : Request) (a : Except Error r.Answer) (l : Ledger) : Prop :=
  ∃ before stamp later, l.order = before ++ (i, { request := r, stamp }) :: later ∧
    a = (Memory.serve e (m.after e (before.map (·.2))) stamp r).1

/--
A client holds the lock of a monitor and no other one.
-/
structure Guards (i : Nat) (M : Uuid) (l : Ledger) : Prop where
  lt : i < l.begun.length
  held : (lockKey M, i) ∈ l.shared.holders
  only : ∀ key, (key, i) ∈ l.shared.holders → key = lockKey M

/--
The operations that have taken effect have set the pointer of a monitor to what it is.
-/
def Points (e : Engine) (m : Memory) (M : Uuid) (l : Ledger) : Prop :=
  (m.after e l.turns).board.current? M = l.shared.memory.board.current? M

def HoldsNone (i : Nat) (l : Ledger) : Prop := ∀ key, (key, i) ∉ l.shared.holders

variable {e : Engine} {m : Memory} {i : Nat} {M : Uuid} {l l' : Ledger} {sh sh' : Shared} {r : Request}

theorem Done.later {a : Except Error r.Answer} (h : Done e m i r a l) (hf : Follows e m i l l') :
    Done e m i r a l' := by
  obtain ⟨before, stamp, later, ho, ha⟩ := h
  obtain ⟨more, ho', _⟩ := hf.order
  exact ⟨before, stamp, later ++ more, by rw [ho', ho]; simp, ha⟩

theorem Guards.later (h : Guards i M l) (hf : Follows e m i l l') : Guards i M l' := by
  obtain ⟨new, hb⟩ := hf.begun
  refine ⟨?_, hf.grown.holds _ h.held, fun key hk => h.only key (hf.keys key hk)⟩
  rw [hb, List.length_append]
  have := h.lt
  omega

theorem Points.later (h : Points e m M l) (hg : Guards i M l) (hf : Follows e m i l l') :
    Points e m M l' := by
  obtain ⟨_, hboard, hserial⟩ := hf.held M hg.held
  unfold Points
  rw [hserial, hboard]
  exact h

theorem HoldsNone.later (h : HoldsNone i l) (hf : Follows e m i l l') : HoldsNone i l' :=
  fun key hk => h key (hf.keys key hk)

section Answers

variable {en : Entry}

theorem answers_note (h : sh.Sane) (en : Entry) : Answers i sh (sh.note en) en where
  sane := h.note en
  trace := rfl
  grown := fun _ _ => Shared.extends_note en
  keys := fun _ hk => .inl hk
  held := fun _ _ => ⟨rfl, rfl⟩

theorem answers_hold (h : sh.Sane) {key : String} (hfree : sh.isFree key = true) :
    Answers i sh ((sh.hold key i).note en) en where
  sane := (h.hold hfree i).note en
  trace := rfl
  grown := fun _ _ => (Shared.extends_hold key i).trans (Shared.extends_note en)
  keys := by
    intro k hk
    simp only [Shared.note, Shared.hold, List.mem_cons] at hk
    cases hk with
    | inl hk => exact .inr (by rw [hk])
    | inr hk => exact .inl hk
  held := fun _ _ => ⟨rfl, rfl⟩

theorem answers_free (h : sh.Sane) (key : String) : Answers i sh ((sh.free key i).note en) en where
  sane := (h.free key i).note en
  trace := rfl
  grown := fun _ hj => (Shared.extends_free hj key).trans (Shared.extends_note en)
  keys := fun _ hk => .inl (List.mem_filter.1 hk).1
  held := fun _ _ => ⟨rfl, rfl⟩

theorem answers_set (h : sh.Sane) (hM : (lockKey M, i) ∈ sh.holders) (status : Uuid) :
    Answers i sh ((sh.remember { sh.memory with
      board := sh.memory.board.set { monitorId := M, statusId := status } }).note en) en where
  sane := (h.set _).note en
  trace := rfl
  grown := fun _ _ => (Shared.extends_set _).trans (Shared.extends_note en)
  keys := fun _ hk => .inl hk
  held := by
    intro M' hM'
    refine ⟨rfl, ?_⟩
    have hne : M' ≠ M := fun heq => hM' (heq ▸ hM)
    simp only [Shared.note, Shared.remember]
    rw [Board.current?_set, if_neg hne]

/--
The shared state after a call to the store that changes one monitor only, whose lock is held.
-/
theorem answers_stored (h : sh.Sane) (hM : (lockKey M, i) ∈ sh.holders) {stamp : Stamp} {c : StoreCall}
    {store : Store} (hstore : (sh.memory.store.answer stamp c).2 = store)
    (hd : c.draws = true → stamp.id ∉ sh.drawn)
    (hother : ∀ M', M' ≠ M → Row.ofMonitor M' store.rows = Row.ofMonitor M' sh.memory.store.rows) :
    Answers i sh (((sh.draw stamp c).remember { sh.memory with store }).note en) en := by
  subst hstore
  have hholders : (sh.draw stamp c).holders = sh.holders := by
    unfold Shared.draw
    split <;> rfl
  refine ⟨(h.stored hd).note en, ?_, ?_, ?_, ?_⟩
  . simp only [Shared.note, Shared.remember, Shared.draw_trace]
  . intro j _
    exact (Shared.extends_stored hd).trans (Shared.extends_note en)
  . intro k hk
    simp only [Shared.note, Shared.remember, hholders] at hk
    exact .inl hk
  . intro M' hM'
    have hne : M' ≠ M := fun heq => hM' (heq ▸ hM)
    exact ⟨hother M' hne, rfl⟩

end Answers

theorem isFree_ne (hM : (lockKey M, i) ∈ sh.holders) {M' : Uuid}
    (hfree : sh.isFree (lockKey M') = true) : M' ≠ M := by
  intro heq
  rw [heq] at hfree
  have := List.all_eq_true.1 hfree _ hM
  simp at this

theorem isFree_stored {stamp : Stamp} {c : StoreCall} {memory : Memory} {en : Entry} {key : String} :
    (((sh.draw stamp c).remember memory).note en).isFree key = sh.isFree key := by
  unfold Shared.draw
  split <;> rfl

/--
Whole operations agree with a call that changes the same store, when they set the pointer of a locked monitor only.
-/
theorem Agrees.stored {serial : Memory} (h : Agrees serial sh) (hM : (lockKey M, i) ∈ sh.holders)
    {store : Store} {board : Board} {locks : Slots} (hlocks : locks.claims = [])
    (hboard : ∀ M', M' ≠ M → board.current? M' = serial.board.current? M') {stamp : Stamp} {c : StoreCall}
    {en : Entry} :
    Agrees { serial with store, board, locks }
      (((sh.draw stamp c).remember { sh.memory with store }).note en) := by
  refine ⟨hlocks, rfl, h.directory, ?_⟩
  intro M' hfree
  rw [isFree_stored] at hfree
  exact (hboard M' (isFree_ne hM hfree)).trans (h.pointers M' hfree)

theorem Guards.stored (h : Guards i M l) {stamp : Stamp} {c : StoreCall} {memory : Memory} {en : Entry}
    {t : Turn} : Guards i M ((l.share (((l.shared.draw stamp c).remember memory).note en)).commit i t) := by
  have hholders : (((l.shared.draw stamp c).remember memory).note en).holders = l.shared.holders := by
    unfold Shared.draw
    split <;> rfl
  refine ⟨h.lt, ?_, ?_⟩
  . simp only [Ledger.commit, Ledger.share, hholders]
    exact h.held
  . simp only [Ledger.commit, Ledger.share, hholders]
    exact h.only

/--
Serving a request changes nothing but the locks, which stay idle.
-/
def Inert (e : Engine) (serial : Memory) (t : Turn) : Prop :=
  ∃ locks : Slots, locks.claims = [] ∧
    (Memory.serve e serial t.stamp t.request).2 = { serial with locks }

section Calls

variable {P : Ledger → Prop}

/--
A look at the store, with which the operation may take effect if it comes to nothing.
-/
theorem spec_look {c : StoreCall} (hc : c.isRead = true) {Q : Except Error c.Answer → Ledger → Prop}
    (h : ∀ l₀ l stamp en, Accounts e m l₀ → P l₀ → Accounts e m l → Follows e m i l₀ l →
      i < l.begun.length ∧
        (Q (l.shared.memory.store.answer stamp c).1 (l.share (l.shared.note en)) ∨
          ∃ t, Pending i t.request l ∧ t.draws = [] ∧ Inert e (m.after e l.turns) t ∧
            Q (l.shared.memory.store.answer stamp c).1 ((l.share (l.shared.note en)).commit i t))) :
    (serial e m).Spec i P c.perform Q := by
  apply Discipline.spec_call (c := .store c)
  intro l₀ l h₀ hP hl hf how answer shared hreply
  have hreply : l.shared.reply i how (.store c) = some (answer, shared) := hreply
  obtain ⟨stamp, rfl, rfl, rfl⟩ := Shared.reply_read hc hreply
  obtain ⟨hi, hQ⟩ := h l₀ l stamp _ h₀ hP hl hf
  have hen : ∀ answer : Except Error c.Answer,
      Entry.draws { client := i, call := .store c, reply := .served stamp, answer } = false :=
    fun _ => StoreCall.draws_of_isRead hc
  rcases hQ with hQ | ⟨t, hp, hdraws, ⟨locks, hlocks, hinert⟩, hQ⟩
  . exact ⟨_, hl.moves (answers_note hl.sane _) hi ⟨hl.agrees.idle, hl.agrees.store, hl.agrees.directory,
      hl.agrees.pointers⟩ (hen _), hQ⟩
  . have hafter : (m.after e l.turns).after e [t] = { m.after e l.turns with locks } := hinert
    refine ⟨_, hl.commits (answers_note hl.sane _) hp ?_ ?_ ?_ ?_, hQ⟩
    . rw [hafter]
      exact ⟨hlocks, hl.agrees.store, hl.agrees.directory, hl.agrees.pointers⟩
    . intro hd
      rw [hen] at hd
      cases hd
    . simp [hdraws]
    . intro M _
      rw [hafter]

theorem spec_search {user : Uuid} {Q : Except Error Lookup → Ledger → Prop}
    (h : ∀ l₀ l en, Accounts e m l₀ → P l₀ → Accounts e m l → Follows e m i l₀ l →
      i < l.begun.length ∧
        Q (.ok (.ofSearch (l.shared.memory.directory.find? user))) (l.share (l.shared.note en))) :
    (serial e m).Spec i P (Call.resolve user).perform Q := by
  apply Discipline.spec_call (c := .resolve user)
  intro l₀ l h₀ hP hl hf how answer shared hreply
  have hreply : l.shared.reply i how (.resolve user) = some (answer, shared) := hreply
  obtain ⟨rfl, rfl⟩ := Shared.reply_resolve hreply
  obtain ⟨hi, hQ⟩ := h l₀ l _ h₀ hP hl hf
  exact ⟨_, hl.moves (answers_note hl.sane _) hi ⟨hl.agrees.idle, hl.agrees.store, hl.agrees.directory,
    hl.agrees.pointers⟩ rfl, hQ⟩

theorem spec_put {status : Uuid} {Q : Except Error Unit → Ledger → Prop}
    (h : ∀ l₀ l en, Accounts e m l₀ → P l₀ → Accounts e m l → Follows e m i l₀ l → Guards i M l ∧
      Q (.ok ()) (l.share ((l.shared.remember { l.shared.memory with
        board := l.shared.memory.board.set { monitorId := M, statusId := status } }).note en))) :
    (serial e m).Spec i P (Call.setPointer { monitorId := M, statusId := status }).perform Q := by
  apply Discipline.spec_call (c := .setPointer { monitorId := M, statusId := status })
  intro l₀ l h₀ hP hl hf how answer shared hreply
  have hreply : l.shared.reply i how (.setPointer { monitorId := M, statusId := status }) =
    some (answer, shared) := hreply
  obtain ⟨rfl, rfl⟩ := Shared.reply_setPointer hreply
  obtain ⟨hg, hQ⟩ := h l₀ l _ h₀ hP hl hf
  refine ⟨_, hl.moves (answers_set hl.sane hg.held status) hg.lt ?_ rfl, hQ⟩
  refine ⟨hl.agrees.idle, hl.agrees.store, hl.agrees.directory, ?_⟩
  intro M' hfree
  have hfree : l.shared.isFree (lockKey M') = true := hfree
  have hne : M' ≠ M := isFree_ne hg.held hfree
  simp only [Shared.note, Shared.remember]
  rw [Board.current?_set, if_neg hne]
  exact hl.agrees.pointers M' hfree

/--
A client that is granted a lock finds the pointer of the monitor as the operations have set it.
-/
theorem spec_acquire {Q : Except Error Token → Ledger → Prop}
    (h : ∀ l₀ l en, Accounts e m l₀ → P l₀ → Accounts e m l → Follows e m i l₀ l →
      i < l.begun.length ∧ (∀ waited, Q (.error (.lockTimeout (lockKey M) waited)) (l.share (l.shared.note en))) ∧
        (∀ token : Token, token.key = lockKey M → Points e m M l →
          Q (.ok token) (l.share ((l.shared.hold (lockKey M) i).note en)))) :
    (serial e m).Spec i P (Call.lock (lockKey M)).perform Q := by
  apply Discipline.spec_call (c := .lock (lockKey M))
  intro l₀ l h₀ hP hl hf how answer shared hreply
  have hreply : l.shared.reply i how (.lock (lockKey M)) = some (answer, shared) := hreply
  rcases Shared.reply_lock hreply with ⟨token, rfl, hkey, hfree, rfl⟩ | ⟨waited, rfl, rfl⟩
  . obtain ⟨hi, _, hok⟩ := h l₀ l _ h₀ hP hl hf
    refine ⟨_, hl.moves (answers_hold hl.sane hfree) hi ?_ rfl, hok token hkey (hl.agrees.pointers M hfree)⟩
    refine ⟨hl.agrees.idle, hl.agrees.store, hl.agrees.directory, ?_⟩
    intro M' hfree'
    have hfree' : (l.shared.hold (lockKey M) i).isFree (lockKey M') = true := hfree'
    unfold Shared.hold Shared.isFree at hfree'
    rw [List.all_cons, Bool.and_eq_true] at hfree'
    exact hl.agrees.pointers M' hfree'.2
  . obtain ⟨hi, htimeout, _⟩ := h l₀ l _ h₀ hP hl hf
    exact ⟨_, hl.moves (answers_note hl.sane _) hi ⟨hl.agrees.idle, hl.agrees.store, hl.agrees.directory,
      hl.agrees.pointers⟩ rfl, htimeout waited⟩

/--
A client gives a lock back once the pointer is as the operations have set it.
-/
theorem spec_giveBack {token : Token} {Q : Except Error Unit → Ledger → Prop}
    (h : ∀ l₀ l en, Accounts e m l₀ → P l₀ → Accounts e m l → Follows e m i l₀ l →
      token.key = lockKey M ∧ Guards i M l ∧ Points e m M l ∧
        (HoldsNone i (l.share ((l.shared.free token.key i).note en)) →
          Q (.ok ()) (l.share ((l.shared.free token.key i).note en)))) :
    (serial e m).Spec i P (Call.release token).perform Q := by
  apply Discipline.spec_call (c := .release token)
  intro l₀ l h₀ hP hl hf how answer shared hreply
  have hreply : l.shared.reply i how (.release token) = some (answer, shared) := hreply
  obtain ⟨rfl, rfl⟩ := Shared.reply_release hreply
  obtain ⟨hkey, hg, hpoints, hQ⟩ := h l₀ l _ h₀ hP hl hf
  refine ⟨_, hl.moves (answers_free hl.sane token.key) hg.lt ?_ rfl, hQ ?_⟩
  . refine ⟨hl.agrees.idle, hl.agrees.store, hl.agrees.directory, ?_⟩
    intro M' hfree
    have hfree : (l.shared.free token.key i).isFree (lockKey M') = true := hfree
    by_cases hM : M' = M
    . rw [hM]
      exact hpoints
    . -- the keys of other monitors are as free as they were
      apply hl.agrees.pointers M'
      have hne : lockKey M' ≠ lockKey M := fun heq => hM (Engine.lockKey_inj heq)
      rw [hkey] at hfree
      unfold Shared.isFree at hfree ⊢
      rw [List.all_eq_true] at hfree ⊢
      intro k hk
      by_cases heq : k = (lockKey M, i)
      . rw [heq]
        simpa using Ne.symm hne
      . exact hfree k (List.mem_filter.2 ⟨hk, by simpa using heq⟩)
  . intro key hk
    have hk : (key, i) ∈ l.shared.holders.filter (· ≠ (token.key, i)) := hk
    rw [List.mem_filter] at hk
    have := hg.only key hk.1
    simp [this, hkey] at hk

end Calls

/--
A client holds a monitor's lock, and its operation has not taken effect yet.
-/
structure Ready (e : Engine) (m : Memory) (i : Nat) (M : Uuid) (r : Request) (l : Ledger) : Prop where
  guards : Guards i M l
  points : Points e m M l
  pending : Pending i r l

structure Concluded (e : Engine) (m : Memory) (i : Nat) (M : Uuid) (r : Request) (a : Except Error r.Answer)
    (l : Ledger) : Prop where
  guards : Guards i M l
  points : Points e m M l
  done : Done e m i r a l

/--
A client has finished: its operation gave up waiting for a lock, or it has taken effect.
-/
def settles (e : Engine) (m : Memory) : Discipline.Goal Ledger := fun i r _ a l =>
  HoldsNone i l ∧ (timedOut a = true ∧ i ∉ l.order.map (·.1) ∨ Done e m i r a l)

theorem Ready.later (h : Ready e m i M r l) (hf : Follows e m i l l') : Ready e m i M r l' :=
  ⟨h.guards.later hf, h.points.later h.guards hf, h.pending.later hf⟩

theorem Ready.note (h : Ready e m i M r l) (en : Entry) :
    Ready e m i M r (l.share (l.shared.note en)) :=
  ⟨⟨h.guards.lt, h.guards.held, h.guards.only⟩, h.points, ⟨h.pending.begun, h.pending.absent⟩⟩

theorem Concluded.later {a : Except Error r.Answer} (h : Concluded e m i M r a l) (hf : Follows e m i l l') :
    Concluded e m i M r a l' :=
  ⟨h.guards.later hf, h.points.later h.guards hf, h.done.later hf⟩

theorem done_commit (sh : Shared) {a : Except Error r.Answer} {stamp : Stamp}
    (h : (Memory.serve e (m.after e l.turns) stamp r).1 = a) :
    Done e m i r a ((l.share sh).commit i { request := r, stamp }) :=
  ⟨l.order, stamp, [], rfl, h.symm⟩

theorem Ready.conclude (h : Ready e m i M r l) {t : Turn} {en : Entry}
    (hinert : Inert e (m.after e l.turns) t) {a : Except Error r.Answer}
    (ha : Done e m i r a ((l.share (l.shared.note en)).commit i t)) :
    Concluded e m i M r a ((l.share (l.shared.note en)).commit i t) := by
  obtain ⟨locks, _, heq⟩ := hinert
  refine ⟨⟨h.guards.lt, h.guards.held, h.guards.only⟩, ?_, ha⟩
  unfold Points
  rw [Ledger.after_commit]
  show (Memory.serve e (m.after e l.turns) t.stamp t.request).2.board.current? M = _
  rw [heq]
  exact h.points

section Operations

variable {P : Ledger → Prop}

/--
The operation of a client takes effect with a call that changes the store, under the lock of the only monitor that
changes.
-/
theorem spec_effect {c : StoreCall} {Q : Except Error c.Answer → Ledger → Prop}
    (h : ∀ l₀ l stamp answer store, Accounts e m l₀ → P l₀ → Accounts e m l → Follows e m i l₀ l →
      (c.draws = true → stamp.id ∉ l.shared.drawn) →
      l.shared.memory.store.answer stamp c = (answer, store) →
      Ready e m i M r l ∧ ∃ (result : Except Error r.Answer) (board : Board) (locks : Slots),
        Memory.serve e (m.after e l.turns) stamp r = (result, { m.after e l.turns with store, board, locks }) ∧
        locks.claims = [] ∧
        (∀ M', M' ≠ M → board.current? M' = (m.after e l.turns).board.current? M') ∧
        (∀ M', M' ≠ M → Row.ofMonitor M' store.rows = Row.ofMonitor M' l.shared.memory.store.rows) ∧
        Turn.draws { request := r, stamp } = (if c.draws then [stamp.id] else []) ∧
        ∀ l', Guards i M l' → Done e m i r result l' → (m.after e l'.turns).board = board →
          l'.shared.memory = { l.shared.memory with store } → Q answer l') :
    (serial e m).Spec i P c.perform Q := by
  apply Discipline.spec_call (c := .store c)
  intro l₀ l h₀ hP hl hf how answer shared hreply
  have hreply : l.shared.reply i how (.store c) = some (answer, shared) := hreply
  obtain ⟨stamp, store, rfl, hans, hd, rfl⟩ := Shared.reply_store hreply
  obtain ⟨hready, result, board, locks, hserve, hlocks, hboard, hothers, hdraws, hQ⟩ :=
    h l₀ l stamp answer store h₀ hP hl hf hd hans
  -- the turn that takes effect has the stamp that the call is served with
  let t : Turn := { request := r, stamp }
  have hafter : (m.after e l.turns).after e [t] = { m.after e l.turns with store, board, locks } :=
    congrArg Prod.snd hserve
  refine ⟨_, hl.commits (t := t)
    (answers_stored hl.sane hready.guards.held (congrArg Prod.snd hans) hd hothers) hready.pending ?_
    (fun _ => ⟨rfl, rfl⟩) ?_ ?_, hQ _ hready.guards.stored (done_commit _ (congrArg Prod.fst hserve)) ?_ rfl⟩
  . rw [hafter]
    exact hl.agrees.stored hready.guards.held hlocks hboard
  . intro id hid
    rw [hdraws] at hid
    split at hid
    . next hc =>
      rw [List.mem_singleton] at hid
      subst hid
      refine ⟨hd hc, ?_⟩
      simp [Shared.note, Shared.remember, Shared.draw, hc]
    . cases hid
  . intro M' hM'
    rw [hafter]
    exact hboard M' fun heq => hM' (heq ▸ hready.guards.held)
  . rw [Ledger.after_commit]
    exact congrArg Memory.board hafter

theorem spec_enter {R : Ledger → Prop}
    (hP : ∀ l₀ l en, Accounts e m l₀ → P l₀ → Accounts e m l → Follows e m i l₀ l →
      Pending i r l ∧ HoldsNone i l ∧ R (l.share ((l.shared.hold (lockKey M) i).note en))) :
    (serial e m).Spec i P (Call.lock (lockKey M)).perform fun outcome l =>
      (∀ token, outcome = .ok token → token.key = lockKey M ∧ Ready e m i M r l ∧ R l) ∧
        (∀ err, outcome = .error err → timedOut (.error err : Except Error r.Answer) = true ∧
          HoldsNone i l ∧ i ∉ l.order.map (·.1)) := by
  apply spec_acquire
  intro l₀ l en h₀ hP₀ hl hf
  obtain ⟨hp, hnone, hR⟩ := hP l₀ l en h₀ hP₀ hl hf
  refine ⟨hp.lt, ?_, ?_⟩
  . intro waited
    constructor
    . intro token habs
      cases habs
    . intro err heq
      cases heq
      exact ⟨rfl, hnone, hp.absent⟩
  . intro token hkey hpoints
    constructor
    . intro token' heq
      cases heq
      refine ⟨hkey, ⟨⟨hp.lt, List.mem_cons_self, ?_⟩, hpoints, ⟨hp.begun, hp.absent⟩⟩, hR⟩
      intro key hk
      rcases List.mem_cons.1 hk with heq | hk
      . exact (Prod.mk.inj heq).1
      . exact absurd hk (hnone key)
    . intro err habs
      cases habs

/--
An operation under a monitor's lock is done, or has given up waiting for the lock.
-/
theorem spec_guarded {after : List Nat} {body : Operation r.Answer} {R : Ledger → Prop}
    (hP : ∀ l₀ l en, Accounts e m l₀ → P l₀ → Accounts e m l → Follows e m i l₀ l →
      Pending i r l ∧ HoldsNone i l ∧ R (l.share ((l.shared.hold (lockKey M) i).note en)))
    (hbody : (serial e m).Spec i (fun l => Ready e m i M r l ∧ R l) body
      fun outcome l => Concluded e m i M r outcome l) :
    (serial e m).Spec i P (Engine.locked M body) (settles e m i r after) := by
  unfold Engine.locked
  apply Discipline.spec_bind (spec_enter hP)
  . intro token l hl h
    obtain ⟨hkey, hready, hR⟩ := h.1 token rfl
    refine (Discipline.spec_finish hbody ?_) l hl ⟨hready, hR⟩
    intro outcome
    apply spec_giveBack
    intro l₀ l en _ hc _ hf
    have hc := hc.later hf
    refine ⟨hkey, hc.guards, hc.points, ?_⟩
    intro hnone
    -- the release succeeds, so that the outcome of the body stands
    refine ⟨hnone, .inr ?_⟩
    cases outcome with
    | ok a => exact hc.done
    | error err => exact hc.done
  . intro err l _ h
    obtain ⟨htimeout, hnone, habsent⟩ := h.2 err rfl
    exact ⟨hnone, .inl ⟨htimeout, habsent⟩⟩

end Operations

end StatusTimeline.Interleaving
