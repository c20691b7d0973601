import StatusTimeline.Proofs.Interleaving.Writers

/-!
This module contains what holds after any schedule of clients that record and delete: the answers, the intervals and the
pointers are those of the same operations executed whole, one after another.
-/

namespace StatusTimeline.Interleaving

open Engine (lockKey)

/--
Whether the event is of clients that record or delete, none of which is cancelled.
-/
def Event.Writes : Event → Prop
  | begin request => request.Writes
  | advance _ _ => True
  | cancel _ => False

instance : (ev : Event) → Decidable ev.Writes
  | .begin request => inferInstanceAs (Decidable request.Writes)
  | .advance _ _ => .isTrue trivial
  | .cancel _ => .isFalse id

def State.IsFinished (st : State) : Prop := ∀ i c, st.client? i = some c → c.result?.isSome = true

/--
The operations of an order, executed whole one after another, come to what the clients of a state have come to.
-/
structure Linearizes (e : Engine) (m : Memory) (st : State) (order : List (Nat × Turn)) : Prop where
  prepared : m.Prepared (order.map (·.2))
  once : (order.map (·.1)).Nodup
  /-- An operation is executed as its client has asked for it, after those that were served before that client began. -/
  ordered : ∀ before i t later, order = before ++ (i, t) :: later →
    ∃ c, st.client? i = some c ∧ c.request = t.request ∧ ∀ j ∈ c.after, j ∈ before.map (·.1)
  /-- It is executed with the identifier and the clock that its client's append was served with. -/
  stamps : ∀ en ∈ st.shared.trace, en.draws = true →
    ∃ t, (en.client, t) ∈ order ∧ en.reply = .served t.stamp
  answers : ∀ i c a, st.client? i = some c → c.result? = some a → timedOut a = false →
    ∃ before stamp later, order = before ++ (i, { request := c.request, stamp }) :: later ∧
      a = (Memory.serve e (m.after e (before.map (·.2))) stamp c.request).1
  /-- An operation that gives up waiting for a lock is not executed. -/
  timeouts : ∀ i c a, st.client? i = some c → c.result? = some a → timedOut a = true →
    i ∉ order.map (·.1)
  intervals : (m.after e (order.map (·.2))).store = st.shared.memory.store
  pointers : ∀ monitor, st.shared.isFree (lockKey monitor) = true →
    (m.after e (order.map (·.2))).board.current? monitor = st.shared.memory.board.current? monitor
  released : st.IsFinished → st.shared.holders = []

structure Lists (l : Ledger) (st : State) : Prop where
  length : l.begun.length = st.clients.length
  begun : ∀ i, l.begun[i]? = (st.client? i).map fun c => (c.request, c.after)

variable {e : Engine} {m : Memory} {i : Nat} {l l' : Ledger} {st st' : State} {r : Request}

theorem Lists.client? (h : Lists l st) {after : List Nat} (hb : l.begun[i]? = some (r, after)) :
    ∃ c, st.client? i = some c ∧ c.request = r ∧ c.after = after := by
  rw [h.begun, Option.map_eq_some_iff] at hb
  obtain ⟨c, hc, heq⟩ := hb
  exact ⟨c, hc, (Prod.mk.inj heq).1, (Prod.mk.inj heq).2⟩

theorem Lists.mem_begun (h : Lists l st) {c : Client} (hclient : st.client? i = some c) :
    (c.request, c.after) ∈ l.begun := by
  have hb := h.begun i
  rw [hclient] at hb
  exact List.mem_of_getElem? hb

theorem Lists.begin (h : Lists l st) (hn : next e st (.begin r) = some st')
    (hl : l'.begun = l.begun ++ [(r, st.served)]) : Lists l' st' := by
  simp only [next, Option.some.injEq] at hn
  subst hn
  refine ⟨by simp [hl, h.length], ?_⟩
  intro i
  rw [hl, State.client?_concat, ← h.length]
  split
  . next hi =>
    rw [hi]
    simp
  . next hi =>
    rw [List.getElem?_append]
    split
    . exact h.begun i
    . next hlt =>
      have hout : st.client? i = none := by
        rw [Option.eq_none_iff_forall_not_mem]
        intro c hc
        have := State.client?_lt hc
        have := h.length
        omega
      have hlen : ([(r, st.served)] : List (Request × List Nat)).length ≤ i - l.begun.length := by
        simp only [List.length_singleton]
        omega
      rw [List.getElem?_eq_none hlen]
      show none = (st.client? i).map _
      rw [hout]
      rfl

theorem Lists.advance (h : Lists l st) {how : Reply} (hn : next e st (.advance i how) = some st')
    (hl : l'.begun = l.begun) : Lists l' st' := by
  simp only [next] at hn
  split at hn
  . next request call next after hc =>
    rw [Option.map_eq_some_iff] at hn
    obtain ⟨⟨answer, shared⟩, hreply, rfl⟩ := hn
    refine ⟨by simp [hl, h.length], ?_⟩
    intro j
    rw [State.client?_set (State.client?_lt hc), hl, h.begun]
    split
    . next hj =>
      rw [hj, hc]
      rfl
    . rfl
  . cases hn

theorem Done.mem {a : Except Error r.Answer} (h : Done e m i r a l) : i ∈ l.order.map (·.1) := by
  obtain ⟨before, stamp, later, ho, _⟩ := h
  rw [ho]
  simp

theorem served_mem (hc : (serial e m).Coherent (settles e m) l st) {j : Nat} (hj : j ∈ st.served) :
    j ∈ l.order.map (·.1) := by
  obtain ⟨c, hclient, hserved⟩ := (Option.any_eq_true _ _).1 (List.mem_filter.1 hj).2
  obtain ⟨a, hresult, ha⟩ := (Option.any_eq_true _ _).1 hserved
  -- it has finished without giving up, so that its operation has taken effect
  obtain ⟨l₀, _, hf, _, ⟨htimeout, _⟩ | hdone⟩ := hc.met hclient hresult
  . simp [htimeout] at ha
  . exact (hdone.later hf).mem

theorem Accounts.holdsNone_begin (hl : Accounts e m l) (r : Request) (after : List Nat) :
    HoldsNone l.begun.length (l.begin r after) := by
  intro key hk
  have := hl.holders _ hk
  simp only at this
  omega

/--
An operation that is refused at once takes effect as its client begins.
-/
theorem Accounts.refuse (hl : Accounts e m l) (hinc : Incomplete r) (hp : Pending i r l) {err : Error}
    (hthrow : r.operation e = throw err) :
    let l' := l.commit i { request := r, stamp := default }
    Accounts e m l' ∧ Done e m i r (.error err) l' ∧ ∀ j, j ≠ i → Follows e m j l l' := by
  have hserve : ∀ serial : Memory, Memory.serve e serial default r = (.error err, serial) := by
    intro serial
    unfold Memory.serve
    rw [hthrow]
    exact Memory.perform_throw err
  have hafter : (m.after e l.turns).after e [{ request := r, stamp := default }] = m.after e l.turns :=
    congrArg Prod.snd (hserve _)
  have hdraws : Turn.draws { request := r, stamp := default } = [] := draws_of_incomplete hinc default
  refine ⟨?_, done_commit l.shared (congrArg Prod.fst (hserve _)), ?_⟩
  . refine hl.commit hl.sane hp ?_ (fun en hen _ => .inl hen) (fun _ hid => hid) (by simp [hdraws]) hl.holders
    rw [hafter]
    exact hl.agrees
  . intro j hj
    refine ⟨.refl _ _, fun _ h => h, ⟨[_], rfl, by simpa using Ne.symm hj⟩, ⟨[], by simp [Ledger.commit]⟩, ?_⟩
    intro M _
    refine ⟨rfl, rfl, ?_⟩
    rw [Ledger.after_commit]
    exact congrArg (·.board.current? M) hafter

theorem coherent_begin (he : e.compound = .whole) (hc : (serial e m).Coherent (settles e m) l st)
    (hlists : Lists l st) (hr : r.Writes) (hn : next e st (.begin r) = some st') :
    ∃ l', (serial e m).Coherent (settles e m) l' st' ∧ l'.begun = l.begun ++ [(r, st.served)] := by
  have hl : Accounts e m l := hc.inv
  have hp := hl.pending_begin (r := r) fun j hj => served_mem hc hj
  have hnone := hl.holdsNone_begin r st.served
  rw [hlists.length] at hp hnone
  have hbegin : ∀ j, Follows e m j l (l.begin r st.served) := fun j => follows_begin l r st.served
  by_cases hinc : Incomplete r
  . obtain ⟨err, hthrow⟩ := refused_of_incomplete hinc e
    obtain ⟨hl', hdone, hfollows⟩ := hl.begin.refuse hinc hp hthrow
    refine ⟨_, hc.begin hn ?_ hl' (fun j hj => (hbegin j).trans (hfollows j hj)) ?_, rfl⟩
    . rfl
    . rw [hthrow]
      exact ⟨hnone, .inr hdone⟩
  . have hview : (serial e m).view (l.begin r st.served) = (serial e m).view l := rfl
    refine ⟨_, hc.begin hn hview hl.begin (fun j _ => hbegin j) ?_, rfl⟩
    exact spec_request he hr hinc _ hl.begin ⟨hp, hnone⟩

/--
Schedules keep all clients to the discipline, and the ledger knows those that have begun in them.
-/
theorem coherent_events (he : e.compound = .whole) {events : List Event} (hwrites : ∀ ev ∈ events, ev.Writes)
    (hc : (serial e m).Coherent (settles e m) l st) (hlists : Lists l st) (hplay : play e st events = some st') :
    ∃ l', (serial e m).Coherent (settles e m) l' st' ∧ Lists l' st' ∧
      ∀ x ∈ l'.begun, x ∈ l.begun ∨ .begin x.1 ∈ events := by
  induction events generalizing st l with
  | nil =>
    cases hplay
    exact ⟨l, hc, hlists, fun _ => .inl⟩
  | cons ev evs ih =>
    rw [play, Option.bind_eq_some_iff] at hplay
    obtain ⟨s, hn, hplay⟩ := hplay
    have hev := hwrites ev List.mem_cons_self
    have hevs : ∀ ev ∈ evs, ev.Writes := fun ev hev => hwrites ev (List.mem_cons_of_mem _ hev)
    cases ev with
    | begin r =>
      obtain ⟨l₁, hc₁, hb⟩ := coherent_begin he hc hlists hev hn
      obtain ⟨l', hc', hlists', hbegun⟩ := ih hevs hc₁ (hlists.begin hn hb) hplay
      refine ⟨l', hc', hlists', ?_⟩
      intro x hx
      rcases hbegun x hx with hx | hx
      . rw [hb, List.mem_append, List.mem_singleton] at hx
        cases hx with
        | inl hx => exact .inl hx
        | inr hx => exact .inr (by simp [hx])
      . exact .inr (List.mem_cons_of_mem _ hx)
    | advance i how =>
      obtain ⟨l₁, hc₁, hb⟩ := hc.advance hn
      obtain ⟨l', hc', hlists', hbegun⟩ := ih hevs hc₁ (hlists.advance hn hb) hplay
      refine ⟨l', hc', hlists', ?_⟩
      intro x hx
      rw [← hb]
      exact (hbegun x hx).imp_right (List.mem_cons_of_mem _)
    | cancel i => cases hev

section Timeouts

variable {stamp : Stamp}

theorem timedOut_error {α β : Type} (err : Error) :
    timedOut (.error err : Except Error α) = timedOut (.error err : Except Error β) := by
  cases err <;> rfl

theorem timedOut_append (s : Store) (stamp : Stamp) (new : NewInterval) (close : Option Uuid) :
    timedOut (s.append stamp new close).1 = false := by
  unfold Store.append
  split
  . rfl
  . split <;> rfl

theorem timedOut_applyDeletion (s : Store) (plan : DeletionPlan) :
    timedOut (s.applyDeletion plan).1 = false := by
  unfold Store.applyDeletion
  split
  . rfl
  . split
    . rfl
    . split <;> rfl

theorem timedOut_succeedWhole (new : NewInterval) : timedOut (m.succeedWhole stamp new).1 = false := by
  unfold Memory.succeedWhole
  dsimp only
  have happ := timedOut_append m.store stamp new ((Row.latest? new.monitorId m.store.rows).map (·.id))
  cases h : m.store.append stamp new ((Row.latest? new.monitorId m.store.rows).map (·.id)) with
  | mk outcome store =>
    rw [h] at happ
    cases outcome with
    | error err => exact (timedOut_error err).trans happ
    | ok interval => rfl

theorem timedOut_deleteWhole (id : Uuid) : timedOut (m.deleteWhole id).1 = false := by
  unfold Memory.deleteWhole
  cases m.store.find? id with
  | none => rfl
  | some row =>
    dsimp only
    split
    . rfl
    . unfold Memory.cutOutWhole
      dsimp only
      have happ := timedOut_applyDeletion m.store (.restitch row.interval
        (Row.neighbors row.interval.monitorId row.interval.startsAt m.store.rows))
      cases h : m.store.applyDeletion (.restitch row.interval
        (Row.neighbors row.interval.monitorId row.interval.startsAt m.store.rows)) with
      | mk outcome store =>
        rw [h] at happ
        cases outcome with
        | error err => exact (timedOut_error err).trans happ
        | ok _ => rfl

theorem timedOut_serve (he : e.compound = .whole) (hidle : m.locks.claims = []) (hr : r.Writes) (stamp : Stamp) :
    timedOut (Memory.serve e m stamp r).1 = false := by
  cases r with
  | record q =>
    rw [Memory.serve_record he hidle]
    split
    . rfl
    . rfl
    . exact timedOut_succeedWhole _
  | delete id =>
    rw [Memory.serve_delete he hidle]
    split
    . rfl
    . exact timedOut_deleteWhole id
  | _ => cases hr

end Timeouts

/--
An operation that has given up waiting does not take effect later, and none that has taken effect has given up.
-/
theorem absent_of_timedOut (he : e.compound = .whole) (hc : (serial e m).Coherent (settles e m) l st)
    (hprepared : m.Prepared (l.order.map (·.2))) {c : Client} (hclient : st.client? i = some c)
    (hr : c.request.Writes) {a : Except Error c.request.Answer} (hresult : c.result? = some a)
    (ha : timedOut a = true) : i ∉ l.order.map (·.1) := by
  obtain ⟨l₀, _, hf, _, hsettled⟩ := hc.met hclient hresult
  obtain ⟨more, ho, hmore⟩ := hf.order
  rcases hsettled with ⟨_, habsent⟩ | ⟨before, stamp, later, ho₀, hserve⟩
  . rw [ho, List.map_append, List.mem_append]
    intro hmem
    cases hmem with
    | inl hmem => exact habsent hmem
    | inr hmem =>
      obtain ⟨t, ht, heq⟩ := List.mem_map.1 hmem
      exact hmore t ht heq
  . rw [ho, ho₀, List.append_assoc, List.map_append] at hprepared
    rw [hserve, timedOut_serve he (hprepared.after he).idle hr] at ha
    cases ha

theorem holders_of_finished (hc : (serial e m).Coherent (settles e m) l st) (hlists : Lists l st)
    (hfinished : st.IsFinished) : l.shared.holders = [] := by
  have hl : Accounts e m l := hc.inv
  apply List.eq_nil_iff_forall_not_mem.2
  intro k hk
  obtain ⟨c, hclient, _⟩ := hlists.client? (List.getElem?_eq_getElem (hl.holders k hk))
  obtain ⟨a, hresult⟩ := Option.isSome_iff_exists.1 (hfinished _ c hclient)
  obtain ⟨l₀, _, hf, hnone, _⟩ := hc.met hclient hresult
  exact hnone.later hf k.1 hk

/--
The order of a ledger is one in which the operations come to what the clients have come to.
-/
theorem linearizes_of_coherent (he : e.compound = .whole) (hidle : m.locks.claims = []) (hm : m.store.WellFormed)
    (hc : (serial e m).Coherent (settles e m) l st) (hlists : Lists l st)
    (hwrites : ∀ x ∈ l.begun, x.1.Writes) : Linearizes e m st l.order := by
  have hl : Accounts e m l := hc.inv
  have hshared : l.shared = st.shared := hc.view
  have hprepared : m.Prepared (l.order.map (·.2)) := by
    refine ⟨hidle, hm, ?_, hl.fresh⟩
    intro t ht
    obtain ⟨⟨i, t⟩, hit, rfl⟩ := List.mem_map.1 ht
    obtain ⟨before, later, ho⟩ := List.append_of_mem hit
    obtain ⟨after, hb, _⟩ := hl.ordered before i t later ho
    exact hwrites _ (List.mem_of_getElem? hb)
  refine ⟨hprepared, hl.once, ?_, hshared ▸ hl.stamps, ?_, ?_, hshared ▸ hl.agrees.store,
    hshared ▸ hl.agrees.pointers, fun hfinished => hshared ▸ holders_of_finished hc hlists hfinished⟩
  . intro before i t later ho
    obtain ⟨after, hb, hbefore⟩ := hl.ordered before i t later ho
    obtain ⟨c, hclient, hrequest, rfl⟩ := hlists.client? hb
    exact ⟨c, hclient, hrequest, hbefore⟩
  . intro i c a hclient hresult ha
    obtain ⟨l₀, _, hf, _, ⟨htimeout, _⟩ | hdone⟩ := hc.met hclient hresult
    . simp [htimeout] at ha
    . exact hdone.later hf
  . intro i c a hclient hresult ha
    exact absent_of_timedOut he hc hprepared hclient (hwrites _ (hlists.mem_begun hclient)) hresult ha

theorem split_or_split {α : Type} {xs bs cs bs' cs' : List α} {x y : α} (hx : xs = bs ++ x :: cs)
    (hy : xs = bs' ++ y :: cs') (hne : x ≠ y) :
    (∃ mid, bs' = bs ++ x :: mid) ∨ ∃ mid, bs = bs' ++ y :: mid := by
  rw [hx] at hy
  rcases List.append_eq_append_iff.1 hy with ⟨as, rfl, heq⟩ | ⟨as, rfl, heq⟩
  . left
    cases as with
    | nil => exact absurd (List.cons.inj heq).1 hne
    | cons a as => exact ⟨as, by rw [(List.cons.inj heq).1]⟩
  . right
    cases as with
    | nil => exact absurd (List.cons.inj heq).1.symm hne
    | cons a as => exact ⟨as, by rw [(List.cons.inj heq).1]⟩

namespace Linearizes

variable {order before mid later : List (Nat × Turn)} {t : Turn}

/--
From its place on an operation is executed in a memory that is ready for it and for those that follow.
-/
theorem prepared_at (h : Linearizes e m st order) (he : e.compound = .whole)
    (ho : order = before ++ (i, t) :: mid ++ later) :
    (m.after e (before.map (·.2))).Prepared (t :: mid.map (·.2)) := by
  have hp := h.prepared
  rw [ho, List.map_append, List.map_append] at hp
  exact hp.left.after he

theorem deleted_before (h : Linearizes e m st order) (he : e.compound = .whole) {id : Uuid} {stamp stamp' : Stamp}
    {a b : DeletionOutcome} (ho : order = before ++ (i, { request := .delete id, stamp }) :: mid ++ later)
    (ha : .ok a = (Memory.serve e (m.after e (before.map (·.2))) stamp (.delete id)).1)
    (hb : .ok b = (Memory.serve e (m.after e ((before ++ (i, { request := .delete id, stamp }) :: mid).map (·.2)))
      stamp' (.delete id)).1) : False := by
  have hp := h.prepared_at he ho
  rw [List.map_append, Memory.after_append] at hb
  have hgone := hp.deleted_once he ha.symm stamp'
  rw [List.map_cons, hgone] at hb
  cases hb

theorem closed_before (h : Linearizes e m st order) (he : e.compound = .whole)
    (hrecords : ∀ x ∈ order, ∃ q, x.2.request = .record q) {q q' : ChangeRequest} {stamp stamp' : Stamp}
    {a b : StatusChange} {p : Uuid} (ho : order = before ++ (i, { request := .record q, stamp }) :: mid ++ later)
    (ha : .ok a = (Memory.serve e (m.after e (before.map (·.2))) stamp (.record q)).1)
    (hb : .ok b = (Memory.serve e (m.after e ((before ++ (i, { request := .record q, stamp }) :: mid).map (·.2)))
      stamp' (.record q')).1) (hpa : a.closedPrior = some p) : b.closedPrior ≠ some p := by
  have hp := h.prepared_at he ho
  have hmid : ∀ t ∈ mid.map (·.2), ∃ q, t.request = .record q := by
    intro t ht
    obtain ⟨x, hx, rfl⟩ := List.mem_map.1 ht
    exact hrecords x (by simp [ho, hx])
  rw [List.map_append, Memory.after_append] at hb
  exact hp.closed_once he hmid ha.symm hpa hb.symm

theorem delete_unique (h : Linearizes e m st order) (he : e.compound = .whole) {i j : Nat} {id : Uuid}
    {a b : DeletionOutcome} {after after' : List Nat}
    (hi : st.client? i = some { request := .delete id, rest := .done (.ok a), after })
    (hj : st.client? j = some { request := .delete id, rest := .done (.ok b), after := after' }) : i = j := by
  obtain ⟨bs, stamp, cs, ho, ha⟩ := h.answers i _ _ hi rfl rfl
  obtain ⟨bs', stamp', cs', ho', hb⟩ := h.answers j _ _ hj rfl rfl
  -- one of two different clients is served before the other
  by_cases hij : i = j
  . exact hij
  . rcases split_or_split ho ho' fun heq => hij (congrArg Prod.fst heq) with ⟨mid, rfl⟩ | ⟨mid, rfl⟩
    . exact (h.deleted_before he ho' ha hb).elim
    . exact (h.deleted_before he ho hb ha).elim

theorem closedPrior_unique (h : Linearizes e m st order) (he : e.compound = .whole)
    (hrecords : ∀ x ∈ order, ∃ q, x.2.request = .record q) {i j : Nat} {q q' : ChangeRequest}
    {a b : StatusChange} {after after' : List Nat} {p : Uuid}
    (hi : st.client? i = some { request := .record q, rest := .done (.ok a), after })
    (hj : st.client? j = some { request := .record q', rest := .done (.ok b), after := after' })
    (hpa : a.closedPrior = some p) (hpb : b.closedPrior = some p) : i = j := by
  obtain ⟨bs, stamp, cs, ho, ha⟩ := h.answers i _ _ hi rfl rfl
  obtain ⟨bs', stamp', cs', ho', hb⟩ := h.answers j _ _ hj rfl rfl
  by_cases hij : i = j
  . exact hij
  . rcases split_or_split ho ho' fun heq => hij (congrArg Prod.fst heq) with ⟨mid, rfl⟩ | ⟨mid, rfl⟩
    . exact absurd hpb (h.closed_before he hrecords ho' ha hb hpa)
    . exact absurd hpa (h.closed_before he hrecords ho hb ha hpb)

end Linearizes

theorem accounts_start (hidle : m.locks.claims = []) (hm : m.store.WellFormed) :
    Accounts e m { shared := (State.start m).shared } := by
  refine ⟨⟨hm, ?_, List.Pairwise.nil⟩, ⟨hidle, rfl, rfl, fun _ _ => rfl⟩, List.nodup_nil, ?_, ?_, ?_, ?_, ?_⟩
  . exact fun r hr => List.mem_map.2 ⟨r, hr, rfl⟩
  . intro before i t later habs
    simp at habs
  . intro en habs
    cases habs
  . exact List.nodup_append.2 ⟨List.pairwise_map.2 hm.ids, List.nodup_nil, fun _ _ _ habs => by cases habs⟩
  . intro id hid
    rw [List.mem_append] at hid
    exact hid.resolve_right (by simp [Ledger.turns])
  . intro k habs
    cases habs

/--
After any schedule of clients that record and delete, the answers, the intervals and the pointers are those of the same
operations executed whole in an order that respects which were served before others began. No interval is
deleted twice, and where nothing is deleted no two records close the same one.
-/
theorem writers_linearize (e : Engine) (he : e.compound = .whole) (m : Memory) (hidle : m.locks.claims = [])
    (hm : m.store.WellFormed) (events : List Event) (hwrites : ∀ ev ∈ events, ev.Writes) (st : State)
    (hplay : play e (.start m) events = some st) :
    (∃ order, Linearizes e m st order) ∧
    (∀ i j id a b after after',
      st.client? i = some { request := .delete id, rest := .done (.ok a), after } →
      st.client? j = some { request := .delete id, rest := .done (.ok b), after := after' } → i = j) ∧
    ((∀ id, .begin (.delete id) ∉ events) → ∀ i j q q' a b after after' p,
      st.client? i = some { request := .record q, rest := .done (.ok a), after } →
      st.client? j = some { request := .record q', rest := .done (.ok b), after := after' } →
      a.closedPrior = some p → b.closedPrior = some p → i = j) := by
  -- the ledger starts empty and grows with the schedule
  have hlists : Lists { shared := (State.start m).shared } (.start m) := ⟨rfl, fun _ => rfl⟩
  obtain ⟨l, hc, hlists, hbegun⟩ := coherent_events he hwrites
    (Discipline.coherent_start rfl (accounts_start hidle hm)) hlists hplay
  have hevents : ∀ x ∈ l.begun, .begin x.1 ∈ events := fun x hx => (hbegun x hx).resolve_left (by simp)
  have h := linearizes_of_coherent he hidle hm hc hlists fun x hx => hwrites _ (hevents x hx)
  refine ⟨⟨l.order, h⟩, ?_, ?_⟩
  . intro i j id a b after after' hi hj
    exact h.delete_unique he hi hj
  . intro hnone i j q q' a b after after' p hi hj hpa hpb
    refine h.closedPrior_unique he ?_ hi hj hpa hpb
    intro ⟨k, t⟩ hk
    obtain ⟨before, later, ho⟩ := List.append_of_mem hk
    obtain ⟨c, hclient, hrequest, _⟩ := h.ordered before k t later ho
    have hbegin := hevents _ (hlists.mem_begun hclient)
    have hw := hwrites _ hbegin
    rw [hrequest] at hbegin hw
    cases hr : t.request with
    | record q => exact ⟨q, rfl⟩
    | delete id => exact absurd (hr ▸ hbegin) (hnone id)
    | _ =>
      rw [hr] at hw
      cases hw

/--
Clients 0 and 1 open intervals of a monitor while client 2 gives up waiting for its lock, and clients 3 and 4 both find
the first of them before one of the two deletes it.
-/
theorem writers_linearize_contended :
    let record : Event := .begin (.record { monitorId := some (.ofSerial 1), statusId := some (.ofSerial 2) })
    let call (i id : Nat) (now : Int) : Event := .advance i (.served { id := .ofSerial id, now := .ofNanos now })
    let delete : Event := .begin (.delete (.ofSerial 11))
    let events := [record, record, record, call 0 0 0, .advance 2 (.expired .simulated)] ++
      List.replicate 4 (call 0 11 2000) ++ List.replicate 5 (call 1 12 1000) ++
      [delete, delete, call 3 0 0, call 4 0 0] ++ List.replicate 8 (call 4 0 0) ++ List.replicate 3 (call 3 0 0)
    let st := (play {} (.start {}) events).get (by decide +kernel)
    (st.shared.history (.ofSerial 1)).length = 1 ∧ st.served = [0, 1, 3, 4] ∧
      (∃ order, Linearizes {} {} st order) ∧
      ∀ i j id a b after after',
        st.client? i = some { request := .delete id, rest := .done (.ok a), after } →
        st.client? j = some { request := .delete id, rest := .done (.ok b), after := after' } → i = j := by
  intro record call delete events st
  have h := writers_linearize {} rfl {} rfl Store.consistent_empty.wellFormed events (by decide) st
    (Option.some_get _).symm
  exact ⟨by decide +kernel, by decide +kernel, h.1, h.2.1⟩

end StatusTimeline.Interleaving
