import StatusTimeline.Proofs.Engine.Once
import StatusTimeline.Proofs.Interleaving.Discipline
import StatusTimeline.Proofs.Interleaving.Extends
import StatusTimeline.Proofs.Text.Uuid

/-!
This module contains the discipline of clients that record and delete as if they did so one after another. A ledger
keeps the order in which their operations take effect: with the call that appends or deletes, or with
the one that finds out that there is nothing to do. Served whole in that order they lead to the same store.
-/

namespace StatusTimeline

namespace Interleaving

open Engine (lockKey)

def Entry.draws (en : Entry) : Bool :=
  match en.call with
  | .store c => c.draws
  | _ => false

/--
A shared state with the requests of the clients that have begun, each with the clients served before, and the operations that
have taken effect, oldest first.
-/
structure Ledger where
  shared : Shared
  begun : List (Request × List Nat) := []
  order : List (Nat × Turn) := []

namespace Ledger

def turns (l : Ledger) : List Turn := l.order.map (·.2)

def begin (l : Ledger) (r : Request) (after : List Nat) : Ledger := { l with begun := l.begun ++ [(r, after)] }

def commit (l : Ledger) (i : Nat) (t : Turn) : Ledger := { l with order := l.order ++ [(i, t)] }

def share (l : Ledger) (shared : Shared) : Ledger := { l with shared }

end Ledger

/--
A memory that was led to by whole operations agrees with what is shared: all but the pointers of monitors that are locked.
-/
structure Agrees (serial : Memory) (sh : Shared) : Prop where
  idle : serial.locks.claims = []
  store : serial.store = sh.memory.store
  directory : serial.directory = sh.memory.directory
  pointers : ∀ M, sh.isFree (lockKey M) = true →
    serial.board.current? M = sh.memory.board.current? M

structure Accounts (e : Engine) (m : Memory) (l : Ledger) : Prop where
  sane : l.shared.Sane
  agrees : Agrees (m.after e l.turns) l.shared
  once : (l.order.map (·.1)).Nodup
  ordered : ∀ before i t later, l.order = before ++ (i, t) :: later →
    ∃ after, l.begun[i]? = some (t.request, after) ∧ ∀ j ∈ after, j ∈ before.map (·.1)
  stamps : ∀ en ∈ l.shared.trace, en.draws = true →
    ∃ t, (en.client, t) ∈ l.order ∧ en.reply = .served t.stamp
  fresh : (m.store.ids ++ l.turns.flatMap (·.draws)).Nodup
  drawn : ∀ id ∈ m.store.ids ++ l.turns.flatMap (·.draws), id ∈ l.shared.drawn
  holders : ∀ k ∈ l.shared.holders, k.2 < l.begun.length

/--
What a client may rely on: its operation does not take effect by others, and the monitors whose locks it holds are left
alone.
-/
structure Follows (e : Engine) (m : Memory) (i : Nat) (l l' : Ledger) : Prop where
  grown : Shared.Extends i l.shared l'.shared
  keys : ∀ key, (key, i) ∈ l'.shared.holders → (key, i) ∈ l.shared.holders
  order : ∃ more, l'.order = l.order ++ more ∧ ∀ t ∈ more, t.1 ≠ i
  begun : ∃ more, l'.begun = l.begun ++ more
  held : ∀ M, (lockKey M, i) ∈ l.shared.holders →
    Row.ofMonitor M l'.shared.memory.store.rows = Row.ofMonitor M l.shared.memory.store.rows ∧
      l'.shared.memory.board.current? M = l.shared.memory.board.current? M ∧
        (m.after e l'.turns).board.current? M = (m.after e l.turns).board.current? M

namespace Follows

variable {e : Engine} {m : Memory} {i : Nat} {l l' l'' : Ledger}

theorem refl (i : Nat) (l : Ledger) : Follows e m i l l where
  grown := .refl i l.shared
  keys := fun _ h => h
  order := ⟨[], by simp, by simp⟩
  begun := ⟨[], by simp⟩
  held := fun _ _ => ⟨rfl, rfl, rfl⟩

theorem trans (h : Follows e m i l l') (h' : Follows e m i l' l'') : Follows e m i l l'' := by
  obtain ⟨more, ho, hi⟩ := h.order
  obtain ⟨more', ho', hi'⟩ := h'.order
  obtain ⟨new, hb⟩ := h.begun
  obtain ⟨new', hb'⟩ := h'.begun
  refine ⟨h.grown.trans h'.grown, fun key hk => h.keys key (h'.keys key hk), ⟨more ++ more', ?_, ?_⟩,
    ⟨new ++ new', ?_⟩, ?_⟩
  . rw [ho', ho, List.append_assoc]
  . intro t ht
    rw [List.mem_append] at ht
    cases ht with
    | inl ht => exact hi t ht
    | inr ht => exact hi' t ht
  . rw [hb', hb, List.append_assoc]
  . intro M hM
    obtain ⟨hrows, hboard, hserial⟩ := h.held M hM
    obtain ⟨hrows', hboard', hserial'⟩ := h'.held M (h.grown.holds _ hM)
    exact ⟨hrows'.trans hrows, hboard'.trans hboard, hserial'.trans hserial⟩

end Follows

/--
The discipline of clients whose operations take effect one at a time, in a memory that was `m` before any of them.
-/
def serial (e : Engine) (m : Memory) : Discipline Ledger where
  view := Ledger.shared
  inv := Accounts e m
  rely := Follows e m
  promise := fun _ l l' => l'.begun = l.begun
  rely_refl := fun _ _ => .refl _ _
  rely_trans := fun _ _ _ _ => .trans

variable {e : Engine} {m : Memory} {i : Nat} {l l' : Ledger} {sh sh' : Shared} {en : Entry} {t : Turn} {r : Request}

/--
The operation of a client has not taken effect yet.
-/
structure Pending (i : Nat) (r : Request) (l : Ledger) : Prop where
  begun : ∃ after, l.begun[i]? = some (r, after) ∧ ∀ j ∈ after, j ∈ l.order.map (·.1)
  absent : i ∉ l.order.map (·.1)

theorem Pending.later (h : Pending i r l) (hf : Follows e m i l l') : Pending i r l' := by
  obtain ⟨after, hb, ha⟩ := h.begun
  obtain ⟨more, ho, hi⟩ := hf.order
  obtain ⟨new, hn⟩ := hf.begun
  have hlt : i < l.begun.length := (List.getElem?_eq_some_iff.1 hb).1
  refine ⟨⟨after, ?_, ?_⟩, ?_⟩
  . rw [hn, List.getElem?_append_left hlt, hb]
  . intro j hj
    rw [ho, List.map_append]
    exact List.mem_append_left _ (ha j hj)
  . rw [ho, List.map_append, List.mem_append]
    intro hmem
    cases hmem with
    | inl hmem => exact h.absent hmem
    | inr hmem =>
      obtain ⟨t, ht, heq⟩ := List.mem_map.1 hmem
      exact hi t ht heq

theorem Pending.lt (h : Pending i r l) : i < l.begun.length := by
  obtain ⟨after, hb, _⟩ := h.begun
  exact (List.getElem?_eq_some_iff.1 hb).1

namespace Ledger

theorem turns_commit (l : Ledger) (i : Nat) (t : Turn) : (l.commit i t).turns = l.turns ++ [t] := by
  simp [commit, turns]

theorem after_commit (l : Ledger) (i : Nat) (t : Turn) :
    m.after e (l.commit i t).turns = (m.after e l.turns).after e [t] := by
  rw [turns_commit, Memory.after_append]

end Ledger

structure Answers (i : Nat) (sh sh' : Shared) (en : Entry) : Prop where
  sane : sh'.Sane
  trace : sh'.trace = en :: sh.trace
  grown : ∀ j, j ≠ i → Shared.Extends j sh sh'
  keys : ∀ k ∈ sh'.holders, k ∈ sh.holders ∨ k.2 = i
  held : ∀ M, (lockKey M, i) ∉ sh.holders →
    Row.ofMonitor M sh'.memory.store.rows = Row.ofMonitor M sh.memory.store.rows ∧
      sh'.memory.board.current? M = sh.memory.board.current? M

theorem Answers.drawn (h : Answers i sh sh' en) {id : Uuid} (hid : id ∈ sh.drawn) : id ∈ sh'.drawn :=
  (h.grown (i + 1) (by omega)).drawn id hid

theorem Answers.holders (h : Answers i l.shared sh' en) (hl : Accounts e m l) (hi : i < l.begun.length) :
    ∀ k ∈ sh'.holders, k.2 < l.begun.length := by
  intro k hk
  rcases h.keys k hk with hk | hk
  . exact hl.holders k hk
  . omega

/--
A call without effect of its own keeps to the discipline.
-/
theorem Accounts.moves (hl : Accounts e m l) (h : Answers i l.shared sh' en) (hi : i < l.begun.length)
    (hagrees : Agrees (m.after e l.turns) sh') (hen : en.draws = false) :
    (serial e m).Moves i l (l.share sh') sh' := by
  refine ⟨rfl, ?_, ?_, rfl⟩
  . refine ⟨h.sane, hagrees, hl.once, hl.ordered, ?_, hl.fresh, ?_, h.holders hl hi⟩
    . intro en' hmem hd
      rw [Ledger.share, h.trace, List.mem_cons] at hmem
      cases hmem with
      | inl heq => simp [heq, hen] at hd
      | inr hmem => exact hl.stamps en' hmem hd
    . intro id hid
      exact h.drawn (hl.drawn id hid)
  . intro j hj
    refine ⟨h.grown j hj, ?_, ⟨[], by simp [Ledger.share], by simp⟩, ⟨[], by simp [Ledger.share]⟩, ?_⟩
    . intro key hk
      rcases h.keys _ hk with hk | hk
      . exact hk
      . exact absurd hk hj
    . -- what another client has locked this one has not
      intro M hM
      have hMi : (lockKey M, i) ∉ l.shared.holders := fun hMi => hj (hl.sane.holder_unique hMi hM)
      exact ⟨(h.held M hMi).1, (h.held M hMi).2, rfl⟩

theorem Accounts.commit (hl : Accounts e m l) (hsane : sh'.Sane) (hp : Pending i t.request l)
    (hagrees : Agrees ((m.after e l.turns).after e [t]) sh')
    (hstamps : ∀ en ∈ sh'.trace, en.draws = true →
      en ∈ l.shared.trace ∨ en.client = i ∧ en.reply = .served t.stamp)
    (hdrawn : ∀ id ∈ l.shared.drawn, id ∈ sh'.drawn)
    (hdraws : ∀ id ∈ t.draws, id ∉ l.shared.drawn ∧ id ∈ sh'.drawn)
    (hholders : ∀ k ∈ sh'.holders, k.2 < l.begun.length) : Accounts e m ((l.share sh').commit i t) := by
  obtain ⟨after, hbegun, hafter⟩ := hp.begun
  have hturns : ((l.share sh').commit i t).turns = l.turns ++ [t] := Ledger.turns_commit ..
  refine ⟨hsane, by rw [Ledger.after_commit]; exact hagrees, ?_, ?_, ?_, ?_, ?_, hholders⟩
  . simp only [Ledger.commit, Ledger.share, List.map_append, List.nodup_append, List.map_singleton]
    refine ⟨hl.once, by simp, ?_⟩
    intro a ha b hb heq
    rw [List.mem_singleton] at hb
    exact hp.absent (hb ▸ heq ▸ ha)
  . intro before j t' later heq
    rcases List.eq_nil_or_concat later with hnil | ⟨later, x, hlater⟩
    . -- the new operation, which is the last one
      rw [hnil] at heq
      obtain ⟨hbefore, hlast⟩ := List.append_inj' heq rfl
      simp only [List.cons.injEq, Prod.mk.injEq, and_true] at hlast
      rw [← hlast.1, ← hlast.2, ← hbefore]
      exact ⟨after, hbegun, hafter⟩
    . rw [hlater, List.concat_eq_append, ← List.cons_append, ← List.append_assoc] at heq
      exact hl.ordered before j t' later (List.append_inj' heq rfl).1
  . intro en hmem hd
    rcases hstamps en hmem hd with hmem | ⟨hclient, hreply⟩
    . obtain ⟨t', ht', hreply⟩ := hl.stamps en hmem hd
      exact ⟨t', List.mem_append_left _ ht', hreply⟩
    . exact ⟨t, by simp [Ledger.commit, hclient], hreply⟩
  . rw [hturns, List.flatMap_append, ← List.append_assoc, List.nodup_append]
    refine ⟨hl.fresh, by simpa using Turn.draws_nodup t, ?_⟩
    intro a ha b hb heq
    rw [List.flatMap_singleton] at hb
    exact (hdraws b hb).1 (heq ▸ hl.drawn a ha)
  . intro id hid
    rw [hturns, List.flatMap_append, ← List.append_assoc, List.mem_append, List.flatMap_singleton] at hid
    cases hid with
    | inl hid => exact hdrawn id (hl.drawn id hid)
    | inr hid => exact (hdraws id hid).2

/--
A call with which the operation of its client takes effect keeps to the discipline.
-/
theorem Accounts.commits (hl : Accounts e m l) (h : Answers i l.shared sh' en) (hp : Pending i t.request l)
    (hagrees : Agrees ((m.after e l.turns).after e [t]) sh')
    (hen : en.draws = true → en.client = i ∧ en.reply = .served t.stamp)
    (hdraws : ∀ id ∈ t.draws, id ∉ l.shared.drawn ∧ id ∈ sh'.drawn)
    (hheld : ∀ M, (lockKey M, i) ∉ l.shared.holders →
      ((m.after e l.turns).after e [t]).board.current? M = (m.after e l.turns).board.current? M) :
    (serial e m).Moves i l ((l.share sh').commit i t) sh' := by
  refine ⟨rfl, ?_, ?_, rfl⟩
  . refine hl.commit h.sane hp hagrees ?_ (fun _ hid => h.drawn hid) hdraws (h.holders hl hp.lt)
    intro en' hmem hd
    rw [h.trace, List.mem_cons] at hmem
    cases hmem with
    | inl heq =>
      subst heq
      exact .inr (hen hd)
    | inr hmem => exact .inl hmem
  . intro j hj
    refine ⟨h.grown j hj, ?_, ⟨[(i, t)], rfl, ?_⟩, ⟨[], by simp [Ledger.share, Ledger.commit]⟩, ?_⟩
    . intro key hk
      rcases h.keys _ hk with hk | hk
      . exact hk
      . exact absurd hk hj
    . intro t' ht'
      rw [List.mem_singleton] at ht'
      rw [ht']
      exact Ne.symm hj
    . intro M hM
      have hMi : (lockKey M, i) ∉ l.shared.holders := fun hMi => hj (hl.sane.holder_unique hMi hM)
      refine ⟨(h.held M hMi).1, (h.held M hMi).2, ?_⟩
      rw [Ledger.after_commit]
      exact hheld M hMi

section Begin

variable {after : List Nat}

theorem follows_begin (l : Ledger) (r : Request) (after : List Nat) : Follows e m i l (l.begin r after) where
  grown := .refl i l.shared
  keys := fun _ h => h
  order := ⟨[], by simp [Ledger.begin], by simp⟩
  begun := ⟨[(r, after)], rfl⟩
  held := fun _ _ => ⟨rfl, rfl, rfl⟩

theorem Accounts.begin (hl : Accounts e m l) : Accounts e m (l.begin r after) := by
  refine ⟨hl.sane, hl.agrees, hl.once, ?_, hl.stamps, hl.fresh, hl.drawn, ?_⟩
  . intro before i t later heq
    obtain ⟨after', hb, ha⟩ := hl.ordered before i t later heq
    refine ⟨after', ?_, ha⟩
    rw [Ledger.begin, List.getElem?_append_left (List.getElem?_eq_some_iff.1 hb).1, hb]
  . intro k hk
    have := hl.holders k hk
    simp only [Ledger.begin, List.length_append, List.length_singleton]
    omega

theorem Accounts.pending_begin (hl : Accounts e m l) (hafter : ∀ j ∈ after, j ∈ l.order.map (·.1)) :
    Pending l.begun.length r (l.begin r after) := by
  refine ⟨⟨after, by simp [Ledger.begin], hafter⟩, ?_⟩
  intro hmem
  obtain ⟨⟨j, t⟩, ht, heq⟩ := List.mem_map.1 hmem
  obtain ⟨before, later, ho⟩ := List.append_of_mem ht
  obtain ⟨_, hb, _⟩ := hl.ordered before j t later ho
  -- operations are of clients that have begun before
  have hlt := (List.getElem?_eq_some_iff.1 hb).1
  simp only at heq
  omega

end Begin

end Interleaving

end StatusTimeline
