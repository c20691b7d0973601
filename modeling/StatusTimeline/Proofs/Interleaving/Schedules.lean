import StatusTimeline.Proofs.Interleaving.Contiguity

/-!
This module contains what holds after any schedule of clients that open intervals at their creation, delete, purge
and read, some of them cancelled: no timeline ever has anything wrong with it, and a monitor is emptied
exactly by a deletion that a purge has overtaken.
-/

namespace StatusTimeline.Interleaving

namespace Shared

/--
A timeline that was read, or audited, has nothing wrong with it.
-/
def readsClean : Discipline.Goal Shared := fun _ r _ result _ =>
  match r, result with
  | .timeline _, .ok is => (audit is).violations = []
  | .audit _, .ok report => report.violations = []
  | _, _ => True

variable {sh : Shared} {i : Nat} {e : Engine}

theorem Orderly.audit_eq_nil (h : sh.Orderly) (monitor : Uuid) :
    (audit (Row.timeline monitor sh.memory.store.rows)).violations = [] := by
  have hw := h.consistent.wellFormed
  rw [h.consistent.starts.timeline_eq hw, (h.consistent.starts.ascending hw monitor).audit_violations_iff]
  exact h.consistent.joined monitor

theorem spec_timeline (monitor : Uuid) {P : Shared → Prop} :
    orderly.Spec i P (Engine.timeline monitor) fun outcome _ =>
      ∀ is, outcome = .ok is → (audit is).violations = [] := by
  apply spec_read rfl
  intro sh₀ sh stamp _ _ hsh _ is heq
  cases heq
  exact hsh.audit_eq_nil monitor

theorem spec_purge (cutoff : Instant) {P : Shared → Prop} :
    orderly.Spec i P (Engine.sweepBefore cutoff) fun _ _ => True := by
  apply spec_write
  intro sh₀ sh stamp answer store h₀ _ hsh _ _ hans
  cases hans
  refine ⟨hsh.consistent.purge cutoff, ?_, ?_, trivial⟩
  . intro M _
    refine ⟨hsh.consistent.purge_suffix cutoff M, hsh.consistent.purge_ne_nil cutoff, ?_⟩
    intro hno
    have := hno _ (List.mem_singleton.2 rfl)
    cases this
  . intro M _ hne hnil
    exact absurd hnil (hsh.consistent.purge_ne_nil cutoff hne)

theorem spec_request (he : e.compound = .whole) {r : Request} (hr : r.StartsNow) {after : List Nat}
    {P : Shared → Prop} : orderly.Spec i P (r.operation e) (readsClean i r after) := by
  cases r with
  | record r => exact spec_record he hr
  | delete id => exact spec_delete he id
  | purge cutoff => exact spec_purge cutoff
  | get id =>
    apply Discipline.spec_bind (R := fun _ _ => True)
    . apply spec_read rfl
      intros
      trivial
    . intro found
      cases found with
      | none => exact Discipline.spec_throw fun _ _ _ => trivial
      | some t => exact Discipline.spec_pure fun _ _ _ => trivial
    . exact fun _ _ _ _ => trivial
  | current monitor =>
    apply spec_read rfl
    intros
    trivial
  | timeline monitor =>
    apply spec_read rfl
    intro sh₀ sh stamp _ _ hsh _
    exact hsh.audit_eq_nil monitor
  | audit monitor =>
    apply Discipline.spec_bind (spec_timeline monitor)
    . intro is
      exact Discipline.spec_pure fun _ _ h => h is rfl
    . exact fun _ _ _ _ => trivial

end Shared

open Shared

variable {e : Engine}

theorem orderly_start {m : Memory} (h : m.store.Consistent) : (State.start m).shared.Orderly := by
  refine ⟨⟨h.wellFormed, ?_, List.Pairwise.nil⟩, h⟩
  intro r hr
  exact List.mem_map.2 ⟨r, hr, rfl⟩

/--
One event keeps all clients to the discipline, and only a call of a client can empty a monitor.
-/
theorem coherent_next (he : e.compound = .whole) {st st' : State} {ev : Event}
    (h : orderly.Coherent readsClean st.shared st) (hnow : ev.StartsNow)
    (hn : next e st ev = some st') :
    orderly.Coherent readsClean st'.shared st' ∧
      ∀ M, st.shared.history M ≠ [] → st'.shared.history M = [] →
        ∃ i how en, ev = .advance i how ∧ st'.shared.trace = en :: st.shared.trace ∧
          Empties i M en st.shared := by
  cases ev with
  | begin r =>
    have hspec : orderly.Spec st.clients.length (fun _ => True) (r.operation e)
      (readsClean st.clients.length r st.served) := spec_request he hnow
    have hc := h.begin hn rfl h.inv (fun j _ => Shrinks.refl j _) (hspec st.shared h.inv trivial)
    simp only [next, Option.some.injEq] at hn
    subst hn
    exact ⟨hc, fun M hne hnil => absurd hnil hne⟩
  | advance i how =>
    obtain ⟨sh, hc, en, htr, hp⟩ := h.advance hn
    have hview : sh = st'.shared := hc.view
    subst hview
    exact ⟨hc, fun M hne hnil => ⟨i, how, en, rfl, htr, hp M hne hnil⟩⟩
  | cancel i =>
    have hfree : ∀ j, j ≠ i → Shrinks j st.shared (st.shared.freeAll i) := fun j hj =>
      ⟨extends_freeAll hj, [], rfl, fun _ _ => .refl _ _⟩
    have hview : orderly.view (st.shared.freeAll i) = (orderly.view st.shared).freeAll i := rfl
    have hc := h.cancel hn hview ⟨h.inv.sane.freeAll i, h.inv.consistent⟩ hfree
    have hview : st.shared.freeAll i = st'.shared := hc.view
    rw [← hview]
    exact ⟨hview ▸ hc, fun M hne hnil => absurd hnil hne⟩

theorem coherent_play (he : e.compound = .whole) {st st' : State} {events : List Event}
    (h : orderly.Coherent readsClean st.shared st) (hnow : ∀ ev ∈ events, ev.StartsNow)
    (hplay : play e st events = some st') : orderly.Coherent readsClean st'.shared st' := by
  induction events generalizing st with
  | nil =>
    cases hplay
    exact h
  | cons ev evs ih =>
    rw [play, Option.bind_eq_some_iff] at hplay
    obtain ⟨s, hn, hplay⟩ := hplay
    have hc := (coherent_next he h (hnow ev (by simp)) hn).1
    exact ih hc (fun ev hev => hnow ev (List.mem_cons_of_mem _ hev)) hplay

/--
After any schedule each timeline is consistent, and so is each one that a client has read or audited on the way.
-/
theorem timelines_consistent (e : Engine) (he : e.compound = .whole) (m : Memory)
    (hm : m.store.Consistent) (events : List Event) (hnow : ∀ ev ∈ events, ev.StartsNow)
    (st : State) (hplay : play e (.start m) events = some st) :
    (∀ monitor, (audit (Row.timeline monitor st.shared.memory.store.rows)).violations = []) ∧
    (∀ i monitor is after,
      st.client? i = some { request := .timeline monitor, rest := .done (.ok is), after } →
        (audit is).violations = []) ∧
    (∀ i monitor report after,
      st.client? i = some { request := .audit monitor, rest := .done (.ok report), after } →
        report.violations = []) := by
  have hc := coherent_play he (Discipline.coherent_start rfl (orderly_start hm)) hnow hplay
  refine ⟨hc.inv.audit_eq_nil, ?_, ?_⟩
  . intro i monitor is after hclient
    obtain ⟨_, _, _, h⟩ := hc.met hclient rfl
    exact h
  . intro i monitor report after hclient
    obtain ⟨_, _, _, h⟩ := hc.met hclient rfl
    exact h

/--
Client 0 opens an interval, client 1 is cancelled after its append, and client 2 audits while client 3 purges.
-/
theorem timelines_consistent_cancelled :
    let record : Event := .begin (.record { monitorId := some (.ofSerial 1), statusId := some (.ofSerial 2) })
    let call (i id : Nat) (now : Int) : Event := .advance i (.served { id := .ofSerial id, now := .ofNanos now })
    let events := record :: List.replicate 5 (call 0 11 2000) ++ record :: List.replicate 3 (call 1 12 1000) ++
      [.cancel 1, .begin (.audit (.ofSerial 1)), .begin (.purge (.ofNanos 9000)), call 3 0 0, call 2 0 0]
    let st := (play {} (.start {}) events).get (by decide +kernel)
    (st.shared.history (.ofSerial 1)).length = 1 ∧
      (∀ monitor, (audit (Row.timeline monitor st.shared.memory.store.rows)).violations = []) ∧
      ∀ i monitor report after,
        st.client? i = some { request := .audit monitor, rest := .done (.ok report), after } →
          report.violations = [] := by
  intro record call events st
  have h := timelines_consistent {} rfl {} Store.consistent_empty events (by decide) st (Option.some_get _).symm
  exact ⟨by decide +kernel, h.1, h.2.2⟩

/--
A monitor that has intervals is emptied exactly when a client takes the last one without a repair, having counted two
or more of them before a purge and found no neighbours after it.
-/
theorem emptied_iff (e : Engine) (he : e.compound = .whole) (m : Memory) (hm : m.store.Consistent)
    (events : List Event) (hnow : ∀ ev ∈ events, ev.StartsNow) (st st' : State)
    (hplay : play e (.start m) events = some st) (ev : Event) (hev : ev.StartsNow)
    (hn : next e st ev = some st') (monitor : Uuid) (hne : st.shared.history monitor ≠ []) :
    st'.shared.history monitor = [] ↔
      ∃ i stamp t c, ev = .advance i (.served stamp) ∧ st.client? i = some c ∧
        c.pending? = some (.store (.applyDeletion { target := t.id, repair := none })) ∧
        st.shared.history monitor = [t] ∧ Overtaken i monitor t st.shared.trace := by
  have hc := coherent_play he (Discipline.coherent_start rfl (orderly_start hm)) hnow hplay
  constructor
  . -- the call that empties the monitor is the one that the trace tells of
    intro hnil
    obtain ⟨i, how, en, rfl, htr, t, stamp, hlast, hover, rfl⟩ := (coherent_next he hc hev hn).2 monitor hne hnil
    obtain ⟨c, call, answer, hclient, hpending, hreply⟩ := reply_of_advance hn
    rw [reply_trace hreply] at htr
    cases (List.cons.inj htr).1
    exact ⟨i, stamp, t, c, rfl, hclient, hpending, hlast, hover⟩
  . intro ⟨i, stamp, t, c, hev, hclient, hpending, hlast, _⟩
    subst hev
    obtain ⟨c', call, answer, hclient', hpending', hreply⟩ := reply_of_advance hn
    rw [hclient] at hclient'
    cases hclient'
    rw [hpending] at hpending'
    cases hpending'
    obtain ⟨_, store, _, hans, _, hshared⟩ := reply_store hreply
    have hlast : st.shared.memory.store.history monitor = [t] := hlast
    have hmem : t ∈ st.shared.memory.store.history monitor := by simp [hlast]
    have hc := Store.contains_of_mem hmem
    have hstore : store = st.shared.memory.store.erase t.id := by
      simp only [Store.answer, Store.applyDeletion, hc, not_true_eq_false, if_false] at hans
      exact (Prod.mk.inj hans).2.symm
    have hhist : st'.shared.history monitor = store.history monitor := by rw [hshared]; rfl
    rw [hhist, hstore, Store.history_erase, hlast]
    simp

/--
A schedule in which a purge comes between the count of a deletion and its look at the neighbours: clients 0 and 1
open two intervals of a monitor, client 2 deletes the second one, and client 3 purges the first one.
-/
def overtaking : List Event :=
  let record : Event := .begin (.record { monitorId := some (.ofSerial 1), statusId := some (.ofSerial 2) })
  let call (i id : Nat) (now : Int) : Event := .advance i (.served { id := .ofSerial id, now := .ofNanos now })
  record :: List.replicate 5 (call 0 11 1000) ++
    record :: List.replicate 5 (call 1 12 2000) ++
    .begin (.delete (.ofSerial 12)) :: List.replicate 4 (call 2 0 3000) ++
    .begin (.purge (.ofNanos 3000)) :: [call 3 0 3000, call 2 0 3000]

def overtakenDeletion : Event := .advance 2 (.served { id := .ofSerial 0, now := .ofNanos 3000 })

/--
The monitor has an interval before that deletion and none after it.
-/
theorem emptied_by_overtakenDeletion :
    (∀ ev ∈ overtaking ++ [overtakenDeletion], ev.StartsNow) ∧
      (play {} (.start {}) overtaking).map (fun st => (st.shared.history (.ofSerial 1)).length) = some 1 ∧
      (play {} (.start {}) (overtaking ++ [overtakenDeletion])).map
        (fun st => (st.shared.history (.ofSerial 1)).length) = some 0 := by
  decide +kernel

theorem emptied_iff_overtaking :
    let st := (play {} (.start {}) overtaking).get (by decide +kernel)
    let st' := (next {} st overtakenDeletion).get (by decide +kernel)
    st.shared.history (.ofSerial 1) ≠ [] ∧ st'.shared.history (.ofSerial 1) = [] ∧
      ∃ i stamp t c, overtakenDeletion = .advance i (.served stamp) ∧ st.client? i = some c ∧
        c.pending? = some (.store (.applyDeletion { target := t.id, repair := none })) ∧
        st.shared.history (.ofSerial 1) = [t] ∧ Overtaken i (.ofSerial 1) t st.shared.trace := by
  intro st st'
  have hne : st.shared.history (.ofSerial 1) ≠ [] := by decide +kernel
  have hnil : st'.shared.history (.ofSerial 1) = [] := by decide +kernel
  refine ⟨hne, hnil, ?_⟩
  exact (emptied_iff {} rfl {} Store.consistent_empty overtaking (by decide) st st' (Option.some_get _).symm
    overtakenDeletion (by decide) (Option.some_get _).symm (.ofSerial 1) hne).1 hnil

end StatusTimeline.Interleaving
