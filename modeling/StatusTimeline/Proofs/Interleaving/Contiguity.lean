import StatusTimeline.Proofs.Interleaving.Orderly

/-!
This module contains the proof that timelines stay consistent while any number of clients open, delete, purge and
read: each operation keeps to the discipline from wherever the others have led. It also tells when a monitor
loses its last interval, which only a deletion that a purge has overtaken does.
-/

namespace StatusTimeline.Interleaving

open Engine (lockKey)

namespace Shared

variable {sh sh' : Shared} {i : Nat} {e : Engine}

theorem shrunk_of_held {store : Store} {M : Uuid} {recent : List Entry}
    (hM : (lockKey M, i) ∈ sh.holders)
    (hother : ∀ M', M' ≠ M → store.history M' = sh.memory.store.history M') :
    ∀ M', (lockKey M', i) ∉ sh.holders → Shrunk recent (sh.history M') (store.history M') := by
  intro M' hM'
  have hne : M' ≠ M := by
    intro heq
    exact hM' (heq ▸ hM)
  rw [hother M' hne]
  exact .refl _ _

theorem emptied_unique {store : Store} {M M' : Uuid}
    (hother : ∀ M', M' ≠ M → store.history M' = sh.memory.store.history M')
    (hne : sh.history M' ≠ []) (hnil : store.history M' = []) : M' = M := by
  by_cases heq : M' = M
  . exact heq
  . rw [hother M' heq] at hnil
    exact absurd hnil hne

section Record

theorem spec_append (he : e.compound = .whole) {new : NewInterval} (hn : new.startsAt = none)
    {close : Option Uuid} :
    orderly.Spec i (fun sh => (lockKey new.monitorId, i) ∈ sh.holders ∧
        close = (sh.history new.monitorId).getLast?.map (·.id))
      (e.append new close) fun _ _ => True := by
  unfold Engine.append
  rw [he]
  apply spec_write
  intro sh₀ sh stamp answer store h₀ ⟨hM, hclose⟩ hsh hrely hd hans
  -- purges have left the last interval where it was
  rw [← hrely.getLast?_eq hM] at hclose
  obtain ⟨created, s', happ, hc, _, hlast, hother⟩ :=
    hsh.consistent.append hn (hsh.sane.fresh (hd rfl)) hclose
  rw [Store.answer, happ] at hans
  cases hans
  refine ⟨hc, shrunk_of_held (hrely.grown.holds _ hM) hother, ?_, trivial⟩
  intro M _ hne hnil
  rw [emptied_unique hother hne hnil] at hnil
  simp [hnil] at hlast

theorem spec_succeed (he : e.compound = .whole) (new : NewInterval) (hn : new.startsAt = none) :
    orderly.Spec i (fun sh => (lockKey new.monitorId, i) ∈ sh.holders) (e.succeed new) fun _ _ => True := by
  unfold Engine.succeed
  apply Discipline.spec_bind (R := fun outcome sh => (lockKey new.monitorId, i) ∈ sh.holders ∧
    ∀ prior, outcome = .ok prior → prior = (sh.history new.monitorId).getLast?)
  . apply spec_read rfl
    intro sh₀ sh stamp _ hM hsh hrely
    refine ⟨hrely.grown.holds _ hM, ?_⟩
    intro prior heq
    cases heq
    exact hsh.consistent.wellFormed.latest?_eq _
  . intro prior
    apply Discipline.spec_bind (R := fun _ _ => True)
    . apply Discipline.spec_weaken (spec_append he hn)
      intro sh _ ⟨hM, hprior⟩
      exact ⟨hM, by rw [hprior prior rfl]⟩
    . intro created
      apply Discipline.spec_bind (R := fun _ _ => True)
      . apply spec_setPointer
        intros
        trivial
      . intro _
        exact Discipline.spec_pure fun _ _ _ => trivial
      . exact fun _ _ _ _ => trivial
    . exact fun _ _ _ _ => trivial
  . exact fun _ _ _ _ => trivial

theorem spec_record (he : e.compound = .whole) {r : ChangeRequest} (hr : r.startsAt = none)
    {P : Shared → Prop} : orderly.Spec i P (e.record r) fun _ _ => True := by
  unfold Engine.record
  split
  . next monitor _ =>
    split
    . next status _ =>
      apply spec_locked (R := fun _ => True) (fun _ _ _ _ _ _ _ => trivial)
      rw [Engine.recordLocked_eq]
      apply Discipline.spec_bind
      . apply Discipline.spec_weaken (Discipline.spec_rootCause spec_search)
        exact fun sh _ h => h.1
      . intro rootCause
        apply Discipline.spec_weaken (spec_succeed he (Engine.opening monitor status r rootCause) hr)
        exact fun sh _ h => h.1
      . exact fun _ _ _ _ => trivial
    . exact Discipline.spec_throw fun _ _ _ => trivial
  . exact Discipline.spec_throw fun _ _ _ => trivial

end Record

section Delete

variable {t : Interval}

/--
A client holds the lock of an interval's monitor, and the interval is where it was if it is still stored.
-/
structure Targets (i : Nat) (t : Interval) (sh : Shared) : Prop where
  held : (lockKey t.monitorId, i) ∈ sh.holders
  drawn : t.id ∈ sh.drawn
  here : sh.memory.store.contains t.id = true → t ∈ sh.history t.monitorId

theorem Targets.later (h : Targets i t sh) (hsh : sh.Orderly) (hr : Shrinks i sh sh') : Targets i t sh' := by
  refine ⟨hr.grown.holds _ h.held, hr.grown.drawn _ h.drawn, ?_⟩
  intro hc
  exact hr.still hsh h.held (h.here (hr.contains h.drawn hc)) hc

def Counted (i : Nat) (t : Interval) (n : Nat) (sh : Shared) : Prop :=
  n = (sh.history t.monitorId).length ∧ ∃ old stamp,
    sh.trace =
      { client := i
        call := .store (.count t.monitorId)
        reply := .served stamp
        answer := .ok n } :: old

structure Planned (i : Nat) (t : Interval) (nb : Neighbors) (sh : Shared) : Prop where
  target : Targets i t sh
  split : sh.memory.store.contains t.id = true → ∃ as cs, sh.history t.monitorId = as ++ t :: cs ∧
    nb = { before := as.getLast?, after := cs.head? }
  counted : ∃ mid old n stamp stamp',
    sh.trace =
      { client := i
        call := .store (.findNeighbors t.monitorId t.startsAt)
        reply := .served stamp'
        answer := .ok nb } :: mid ++
      { client := i
        call := .store (.count t.monitorId)
        reply := .served stamp
        answer := .ok n } :: old ∧
    2 ≤ n ∧ ((∀ en ∈ mid, en.isPurge = false) → (sh.history t.monitorId).length = n)

/--
A deletion without a repair that takes a monitor's last interval was overtaken by a purge: more intervals were
counted than were there when the neighbours were looked up.
-/
theorem Planned.empties {as : List Interval} {stamp : Stamp}
    (h : Planned i t { before := as.getLast?, after := none } sh)
    (hs : sh.history t.monitorId = as ++ [t]) (hr : Shrinks i sh sh') (hlast : sh'.history t.monitorId = [t])
    (hnone : (DeletionPlan.restitch t { before := as.getLast?, after := none }).repair = none) :
    Empties i t.monitorId
      { client := i
        call := .store (.applyDeletion (.restitch t { before := as.getLast?, after := none }))
        reply := .served stamp
        answer := .ok () } sh' := by
  have has : as = [] := by simpa [DeletionPlan.restitch] using hnone
  subst has
  obtain ⟨late, htr', _⟩ := hr.held
  obtain ⟨mid, old, n, stamp₀, stamp', htr, hn, hcount⟩ := h.counted
  refine ⟨t, stamp, hlast, ⟨late, mid, old, n, stamp₀, stamp', by rw [htr', htr]; simp, hn, ?_⟩, rfl⟩
  -- without a purge there would be as many intervals as were counted
  apply Classical.byContradiction
  intro hno
  have := hcount fun en hen => by
    rw [← Bool.not_eq_true]
    exact fun hp => hno ⟨en, hen, hp⟩
  rw [hs] at this
  simp at this
  omega

theorem spec_get (id : Uuid) {P : Shared → Prop} :
    orderly.Spec i P (Engine.get id) fun outcome sh => ∀ t, outcome = .ok t →
      t.id = id ∧ t ∈ sh.history t.monitorId ∧ ∃ sh₀, Orderly sh₀ ∧ P sh₀ ∧ Shrinks i sh₀ sh := by
  unfold Engine.get
  apply Discipline.spec_bind (R := fun outcome sh => ∀ t, outcome = .ok (some t) →
    t.id = id ∧ t ∈ sh.history t.monitorId ∧ ∃ sh₀, Orderly sh₀ ∧ P sh₀ ∧ Shrinks i sh₀ sh)
  . apply spec_read rfl
    intro sh₀ sh stamp h₀ hP hsh hrely t heq
    simp only [Store.answer, Except.ok.injEq, Option.map_eq_some_iff] at heq
    obtain ⟨r, hf, rfl⟩ := heq
    obtain ⟨hr, hid⟩ := Store.find?_mem hf
    exact ⟨hid, Store.mem_history.2 ⟨r, hr, rfl, rfl⟩, sh₀, h₀, hP, hrely.trans (.note i sh _)⟩
  . intro found
    cases found with
    | none => exact Discipline.spec_throw fun _ _ _ _ habs => by cases habs
    | some t =>
      apply Discipline.spec_pure
      intro sh _ h t' heq
      cases heq
      exact h t rfl
  . intro err sh _ _ t habs
    cases habs

theorem spec_settle (monitor : Uuid) {P : Shared → Prop} :
    orderly.Spec i P (Engine.settle monitor) fun _ _ => True := by
  unfold Engine.settle
  apply Discipline.spec_bind (R := fun _ _ => True)
  . apply spec_read rfl
    intros
    trivial
  . intro latest
    cases latest with
    | none => exact Discipline.spec_pure fun _ _ _ => trivial
    | some latest =>
      apply Discipline.spec_bind (R := fun _ _ => True)
      . apply spec_setPointer
        intros
        trivial
      . intro _
        exact Discipline.spec_pure fun _ _ _ => trivial
      . exact fun _ _ _ _ => trivial
  . exact fun _ _ _ _ => trivial

theorem spec_applyDeletion (he : e.compound = .whole) {nb : Neighbors} :
    orderly.Spec i (Planned i t nb) (e.applyDeletion (.restitch t nb)) fun _ _ => True := by
  unfold Engine.applyDeletion
  rw [he]
  apply spec_write
  intro sh₀ sh stamp answer store h₀ hplan hsh hrely hd hans
  have hheld := hplan.target.held
  have hheld' := hrely.grown.holds _ hheld
  have hrefused : ∀ err, sh.memory.store.applyDeletion (.restitch t nb) = (.error err, sh.memory.store) →
      store = sh.memory.store := by
    intro err happ
    rw [Store.answer, happ] at hans
    cases hans
    rfl
  by_cases hc₀ : sh₀.memory.store.contains t.id = true
  . obtain ⟨as, cs, hs₀, rfl⟩ := hplan.split hc₀
    rcases h₀.consistent.applyDeletion_cases hs₀ (hrely.suffix hheld)
      (fun i hi hc => hrely.still h₀ hheld hi hc) with
      ⟨err, happ, _⟩ | ⟨hnone, hfirst, happ⟩ | ⟨bs, b, hsplit, happ⟩
    . rw [hrefused err happ]
      exact ⟨hsh.consistent, fun _ _ => .refl _ _, fun _ _ hne hnil => absurd hnil hne, trivial⟩
    . -- nothing is before the target
      rw [Store.answer, happ] at hans
      cases hans
      obtain ⟨hc, hother⟩ := hsh.consistent.erase_first hfirst
      refine ⟨hc, shrunk_of_held hheld' hother, ?_, trivial⟩
      intro M _ hne hnil
      have hM := emptied_unique hother hne hnil
      subst hM
      rw [hsh.consistent.history_erase_first hfirst] at hnil
      subst hnil
      exact hplan.empties hs₀ hrely hfirst hnone
    . -- the interval before the target takes over its span
      rw [Store.answer, happ] at hans
      cases hans
      obtain ⟨hc, hother⟩ := hsh.consistent.erase_repaired hsplit
      refine ⟨hc, shrunk_of_held hheld' hother, ?_, trivial⟩
      intro M _ hne hnil
      rw [emptied_unique hother hne hnil, hsh.consistent.history_erase_repaired hsplit] at hnil
      simp at hnil
  . -- the target has gone
    have hc : sh.memory.store.contains t.id ≠ true := fun hc => hc₀ (hrely.contains hplan.target.drawn hc)
    rw [hrefused (.noInterval t.id) (by simp [Store.applyDeletion, DeletionPlan.restitch, hc])]
    exact ⟨hsh.consistent, fun _ _ => .refl _ _, fun _ _ hne hnil => absurd hnil hne, trivial⟩

theorem spec_plan {n : Nat} (hn : ¬ n ≤ 1) :
    orderly.Spec i (fun sh => Targets i t sh ∧ Counted i t n sh)
      (StoreCall.findNeighbors t.monitorId t.startsAt).perform
      fun outcome sh => ∀ nb, outcome = .ok nb → Planned i t nb sh := by
  apply spec_read rfl
  intro sh₀ sh stamp h₀ ⟨ht, hlen, old, stamp₀, htr₀⟩ hsh hrely nb heq
  have ht' := ht.later h₀ hrely
  cases heq
  refine ⟨ht'.later hsh (.note i sh _), ?_, ?_⟩
  . intro hc
    obtain ⟨as, cs, hs⟩ := List.append_of_mem (ht'.here hc)
    exact ⟨as, cs, hs, hsh.consistent.starts.neighbors_eq hsh.consistent.wellFormed hs⟩
  . -- what the trace tells of the count is kept beside what it tells of this look
    obtain ⟨mid, htr, hheld⟩ := hrely.held
    refine ⟨mid, old, n, stamp₀, stamp, ?_, Nat.lt_of_not_le hn, ?_⟩
    . simp only [Shared.note, htr, htr₀, List.cons_append]
      rfl
    . intro hno
      show (sh.history t.monitorId).length = n
      rw [(hheld _ ht.held).kept hno, hlen]

theorem spec_cutOut (he : e.compound = .whole) {n : Nat} (hn : ¬ n ≤ 1) :
    orderly.Spec i (fun sh => Targets i t sh ∧ Counted i t n sh) (e.cutOut t) fun _ _ => True := by
  unfold Engine.cutOut
  apply Discipline.spec_bind (spec_plan hn)
  . intro nb
    apply Discipline.spec_bind (R := fun _ _ => True)
    . apply Discipline.spec_weaken (spec_applyDeletion he)
      exact fun sh _ h => h nb rfl
    . intro _
      apply Discipline.spec_bind (spec_settle t.monitorId)
      . intro pointer
        exact Discipline.spec_pure fun _ _ _ => trivial
      . exact fun _ _ _ _ => trivial
    . exact fun _ _ _ _ => trivial
  . exact fun _ _ _ _ => trivial

theorem spec_cutOutOne (he : e.compound = .whole) :
    orderly.Spec i (Targets i t) (e.cutOutOne t) fun _ _ => True := by
  unfold Engine.cutOutOne
  apply Discipline.spec_bind (R := fun outcome sh => ∀ n, outcome = .ok n → Targets i t sh ∧ Counted i t n sh)
  . apply spec_read rfl
    intro sh₀ sh stamp h₀ ht hsh hrely n heq
    cases heq
    exact ⟨(ht.later h₀ hrely).later hsh (.note i sh _), Store.length_history, _, stamp, rfl⟩
  . intro n
    split
    . exact Discipline.spec_throw fun _ _ _ => trivial
    . next hn =>
      apply Discipline.spec_weaken (spec_cutOut he hn)
      exact fun sh _ h => h n rfl
  . exact fun _ _ _ _ => trivial

theorem spec_delete (he : e.compound = .whole) (id : Uuid) {P : Shared → Prop} :
    orderly.Spec i P (e.delete id) fun _ _ => True := by
  unfold Engine.delete
  apply Discipline.spec_bind (spec_get id)
  . intro target
    apply spec_locked (R := fun sh => ∃ sh₀, Orderly sh₀ ∧ target.id = id ∧
      target ∈ sh₀.history target.monitorId ∧ Shrinks i sh₀ sh)
    . intro sh₀ sh en h₀ h _ hrely
      obtain ⟨hid, hmem, _⟩ := h target rfl
      exact ⟨sh₀, h₀, hid, hmem, (hrely.trans (.hold _ i i sh)).trans (.note i _ en)⟩
    . rw [Engine.deleteLocked_eq]
      apply Discipline.spec_bind (spec_get id)
      . intro t
        apply Discipline.spec_weaken (spec_cutOutOne he)
        intro sh hsh h
        obtain ⟨hid, hmem, sh₁, h₁, ⟨hheld, sh₀, h₀, hid₀, hmem₀, hrely₀⟩, hrely₁⟩ := h t rfl
        -- the interval found under the lock is of the monitor that was locked
        obtain ⟨r₀, hr₀, heq₀, _⟩ := Store.mem_history.1 hmem₀
        obtain ⟨r, hr, heq, _⟩ := Store.mem_history.1 hmem
        have hm := h₀.sane.origin_unique (hrely₀.trans hrely₁).grown hr₀ hr (by rw [heq₀, heq, hid, hid₀])
        rw [heq₀, heq] at hm
        refine ⟨?_, hsh.sane.contains_drawn (Store.contains_of_mem hmem), fun _ => hmem⟩
        rw [hm]
        exact hrely₁.grown.holds _ hheld
      . exact fun _ _ _ _ => trivial
  . exact fun _ _ _ _ => trivial

end Delete

end Shared

end StatusTimeline.Interleaving
