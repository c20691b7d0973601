import StatusTimeline.Proofs.Engine.Whole
import StatusTimeline.Proofs.Store.Consistent

/-!
This module contains runs of requests that are served one after another. Where no request chooses the start of
the interval that it opens, every memory in a run is settled: its timelines are consistent and the status
pointers follow them.
-/

namespace StatusTimeline

/--
A request with the identifier and the reading of the clock that are at hand while it is served.
-/
structure Turn where
  request : Request
  stamp : Stamp
deriving DecidableEq, Repr

namespace Memory

def after (e : Engine) (m : Memory) : List Turn → Memory
  | [] => m
  | t :: ts => (serve e m t.stamp t.request).2.after e ts

def timeline (m : Memory) (monitor : Uuid) : List Interval := Row.timeline monitor m.store.rows

/--
No lock is held, timelines are consistent, and the pointer of each monitor that has intervals follows the last
one.
-/
structure Settled (m : Memory) : Prop where
  idle : m.locks.claims = []
  consistent : m.store.Consistent
  pointers : ∀ monitor, m.store.history monitor ≠ [] →
    m.board.current? monitor = (m.store.history monitor).getLast?.map (·.statusId)

def Keeps (m m' : Memory) : Prop :=
  ∀ monitor, m.store.history monitor ≠ [] → m'.store.history monitor ≠ []

variable {m : Memory} {stamp : Stamp} {e : Engine}

theorem after_append (ts ts' : List Turn) : m.after e (ts ++ ts') = (m.after e ts).after e ts' := by
  induction ts generalizing m with
  | nil => rfl
  | cons t ts ih => exact ih

/--
Calls that do not go to the store leave it as it is.
-/
theorem store_answer (m : Memory) (stamp : Stamp) (c : Call) :
    (∃ c', c = .store c') ∨ (m.answer stamp c).2.store = m.store := by
  cases c with
  | store c => exact .inl ⟨c, rfl⟩
  | lock key =>
    right
    simp only [answer]
    split <;> rfl
  | release token =>
    right
    simp only [answer]
    split
    . unfold giveUp
      split <;> rfl
    . rfl
  | _ => exact .inr rfl

/--
All rows after an operation were there before, perhaps with other ends, or were inserted by it.
-/
theorem stems_perform (x : Operation α) {r : Row} (hr : r ∈ (m.perform stamp x).2.store.rows) :
    m.store.Stems (· = stamp.id) r := by
  suffices h : ∀ (p : Program (Except Error α)) (m₀ : Memory) r,
      (∀ r ∈ m₀.store.rows, m.store.Stems (· = stamp.id) r) →
        r ∈ (p.run (fun m c => m.answer stamp c) m₀).2.store.rows → m.store.Stems (· = stamp.id) r from
    h x.run m r (fun _ => Store.stems_of_mem) hr
  intro p
  induction p with
  | done a => exact fun m₀ r h hr => h r hr
  | call c next ih =>
    intro m₀ r h hr
    refine ih _ _ r ?_ hr
    intro r hr
    rcases m₀.store_answer stamp c with ⟨c, rfl⟩ | hsame
    . exact .trans h ((Store.stems_answer (s := m₀.store) (c := c) hr).imp_left And.right)
    . exact h r (hsame ▸ hr)

theorem contains_serve {r : Request} {id : Uuid} (h : (serve e m stamp r).2.store.contains id = true) :
    id = stamp.id ∨ m.store.contains id = true := by
  obtain ⟨row, hrow, rfl⟩ := Store.contains_iff.1 h
  rcases stems_perform _ hrow with hid | ⟨row₀, hrow₀, hid, _⟩
  . exact .inl hid
  . exact .inr (Store.contains_iff.2 ⟨row₀, hrow₀, hid⟩)

theorem contains_after {ts : List Turn} {id : Uuid} (h : (m.after e ts).store.contains id = true) :
    id ∈ ts.map (·.stamp.id) ∨ m.store.contains id = true := by
  induction ts generalizing m with
  | nil => exact .inr h
  | cons t ts ih =>
    simp only [List.map_cons, List.mem_cons]
    rcases ih h with hid | hm
    . exact .inl (.inr hid)
    . rcases contains_serve hm with hid | hm
      . exact .inl (.inl hid)
      . exact .inr hm

theorem fresh_after {ts : List Turn} {id : Uuid} (hid : id ∉ ts.map (·.stamp.id))
    (hf : m.store.contains id = false) : (m.after e ts).store.contains id = false := by
  rw [← Bool.not_eq_true]
  intro hc
  rcases contains_after hc with hmem | hm
  . exact hid hmem
  . simp [hm] at hf

/--
What holds of a memory, and goes on to hold when a request with a new identifier is served, holds after a run.
-/
theorem after_induction {P : Memory → Prop} {turns : List Turn} (hids : (turns.map (·.stamp.id)).Nodup)
    (hnew : ∀ t ∈ turns, m.store.contains t.stamp.id = false) (h : P m)
    (hstep : ∀ m, ∀ t ∈ turns, P m → m.store.contains t.stamp.id = false →
      P (serve e m t.stamp t.request).2) : P (m.after e turns) := by
  induction turns generalizing m with
  | nil => exact h
  | cons t ts ih =>
    rw [List.map_cons, List.nodup_cons] at hids
    -- what later turns draw is new to the memory after the first one too
    have hnew' : ∀ t' ∈ ts, (serve e m t.stamp t.request).2.store.contains t'.stamp.id = false := by
      intro t' ht'
      have hid : t'.stamp.id ∉ [t].map (·.stamp.id) := by
        rw [List.map_singleton, List.mem_singleton]
        intro heq
        exact hids.1 (List.mem_map.2 ⟨t', ht', heq⟩)
      exact fresh_after hid (hnew t' (by simp [ht']))
    apply ih hids.2 hnew' (hstep m t (by simp) h (hnew t (by simp)))
    intro m t' ht'
    exact hstep m t' (by simp [ht'])

namespace Settled

theorem start (directory : Directory) : Settled { directory } where
  idle := rfl
  consistent := Store.consistent_empty
  pointers := fun _ h => absurd rfl h

theorem timeline_eq (h : m.Settled) (monitor : Uuid) : m.timeline monitor = m.store.history monitor :=
  h.consistent.starts.timeline_eq h.consistent.wellFormed

theorem with_locks (h : m.Settled) {locks : Slots} (hl : locks.claims = []) :
    Settled { m with locks } :=
  ⟨hl, h.consistent, h.pointers⟩

theorem update (h : m.Settled) {store : Store} {monitor : Uuid} {last : Interval}
    (hc : store.Consistent) (hlast : (store.history monitor).getLast? = some last)
    (hother : ∀ M, M ≠ monitor → store.history M = m.store.history M) :
    Settled { m with store, board := m.board.set { monitorId := monitor, statusId := last.statusId } } := by
  refine ⟨h.idle, hc, ?_⟩
  intro M hM
  simp only at hM ⊢
  rw [Board.current?_set]
  split
  . next heq =>
    rw [heq, hlast]
    rfl
  . next hne =>
    rw [hother M hne] at hM ⊢
    exact h.pointers M hM

theorem keeps_update {store : Store} {monitor : Uuid} {board : Board}
    (hne : store.history monitor ≠ [])
    (hother : ∀ M, M ≠ monitor → store.history M = m.store.history M) :
    m.Keeps { m with store, board } := by
  intro M hM
  by_cases heq : M = monitor
  . rw [heq]
    exact hne
  . rw [← hother M heq] at hM
    exact hM

theorem succeedWhole (h : m.Settled) (new : NewInterval) (hn : new.startsAt = none)
    (hf : m.store.contains stamp.id = false) :
    ∃ change m', m.succeedWhole stamp new = (.ok change, m') ∧ m'.Settled ∧ m.Keeps m' ∧
      change.interval.monitorId = new.monitorId ∧
      change.closedPrior = (m.store.history new.monitorId).getLast?.map (·.id) := by
  have hprior := h.consistent.wellFormed.latest?_eq new.monitorId
  obtain ⟨created, s', happ, hc, hcr, hlast, hother⟩ := h.consistent.append hn hf rfl
  have hm : created.monitorId = new.monitorId := by rw [hcr]; rfl
  let pointer : PointerUpdate := { monitorId := new.monitorId, statusId := created.statusId }
  let change : StatusChange :=
    { interval := created, closedPrior := (m.store.history new.monitorId).getLast?.map (·.id), pointer }
  refine ⟨change, _, ?_, h.update hc hlast hother, keeps_update ?_ hother, hm, rfl⟩
  . simp only [Memory.succeedWhole, hprior, happ]
    rfl
  . intro hnil
    simp [hnil] at hlast

theorem cutOutWhole (h : m.Settled) {t : Interval} {as cs : List Interval}
    (hs : m.store.history t.monitorId = as ++ t :: cs) (hne : as ++ cs ≠ []) :
    ∃ outcome m', m.cutOutWhole t = (.ok outcome, m') ∧ m'.Settled ∧ m.Keeps m' := by
  have hn := h.consistent.starts.neighbors_eq h.consistent.wellFormed hs
  obtain ⟨s', happ, hc, hnil, hother⟩ := h.consistent.applyDeletion hs hne
  obtain ⟨last, hlast⟩ : ∃ last, (s'.history t.monitorId).getLast? = some last :=
    ⟨_, List.getLast?_eq_some_getLast hnil⟩
  have hpointer : latestPointer s' t.monitorId =
      some { monitorId := t.monitorId, statusId := last.statusId } := by
    unfold latestPointer
    rw [hc.wellFormed.latest?_eq, hlast]
    rfl
  let plan := DeletionPlan.restitch t { before := as.getLast?, after := cs.head? }
  let pointer : PointerUpdate := { monitorId := t.monitorId, statusId := last.statusId }
  let outcome : DeletionOutcome := { deleted := t, repair := plan.repair, pointer := some pointer }
  refine ⟨outcome, _, ?_, h.update hc hlast hother, keeps_update hnil hother⟩
  simp only [Memory.cutOutWhole, hn, happ, hpointer]
  rfl

theorem deleteWhole (h : m.Settled) (id : Uuid) :
    (m.deleteWhole id).2.Settled ∧ m.Keeps (m.deleteWhole id).2 := by
  unfold Memory.deleteWhole
  cases hf : m.store.find? id with
  | none => exact ⟨h, fun _ hM => hM⟩
  | some row =>
    dsimp only
    split
    . exact ⟨h, fun _ hM => hM⟩
    . next hcount =>
      have hmem : row.interval ∈ m.store.history row.interval.monitorId :=
        Store.mem_history.2 ⟨row, (Store.find?_mem hf).1, rfl, rfl⟩
      obtain ⟨as, cs, hs⟩ := List.append_of_mem hmem
      have hne : as ++ cs ≠ [] := by
        rw [Store.length_history, hs] at hcount
        intro hnil
        simp_all
      obtain ⟨outcome, m', heq, hm, hk⟩ := h.cutOutWhole hs hne
      rw [heq]
      exact ⟨hm, hk⟩

theorem purge (h : m.Settled) (cutoff : Instant) :
    Settled { m with store := (m.store.purge cutoff).2 } ∧
      m.Keeps { m with store := (m.store.purge cutoff).2 } := by
  refine ⟨⟨h.idle, h.consistent.purge cutoff, ?_⟩, fun M hM => h.consistent.purge_ne_nil cutoff hM⟩
  intro M hM
  have hs := h.consistent.purge_suffix cutoff M
  have hne := hs.ne_nil hM
  rw [h.pointers M hne, List.getLast?_eq_some_getLast hne, List.getLast?_eq_some_getLast hM, hs.getLast hM]

/--
Serving a request keeps a memory settled, and no monitor loses its last interval.
-/
theorem serve (h : m.Settled) (he : e.compound = .whole) {r : Request} (hr : r.StartsNow)
    (hf : m.store.contains stamp.id = false) :
    (serve e m stamp r).2.Settled ∧ m.Keeps (serve e m stamp r).2 := by
  cases r with
  | record r =>
    rw [serve_record he h.idle]
    split
    . exact ⟨h, fun _ hM => hM⟩
    . exact ⟨h, fun _ hM => hM⟩
    . next monitor status _ _ =>
      obtain ⟨change, m', heq, hm, hk, _⟩ :=
        h.succeedWhole (Engine.opening monitor status r (m.rootCause e r)) hr hf
      rw [heq]
      exact ⟨hm.with_locks rfl, hk⟩
  | delete id =>
    rw [serve_delete he h.idle]
    split
    . exact ⟨h, fun _ hM => hM⟩
    . obtain ⟨hm, hk⟩ := h.deleteWhole id
      exact ⟨hm.with_locks rfl, hk⟩
  | purge cutoff =>
    rw [serve_purge]
    exact h.purge cutoff
  | get id =>
    rw [serve_get_snd]
    exact ⟨h, fun _ hM => hM⟩
  | _ => exact ⟨h, fun _ hM => hM⟩

theorem after (h : m.Settled) (he : e.compound = .whole) {turns : List Turn}
    (hnow : ∀ t ∈ turns, t.request.StartsNow) (hids : (turns.map (·.stamp.id)).Nodup)
    (hnew : ∀ t ∈ turns, m.store.contains t.stamp.id = false) :
    (m.after e turns).Settled ∧ m.Keeps (m.after e turns) := by
  apply after_induction (P := fun m' => m'.Settled ∧ m.Keeps m') hids hnew
  . exact ⟨h, fun _ hM => hM⟩
  . intro m' t ht ⟨hm, hk⟩ hf
    obtain ⟨hm', hk'⟩ := hm.serve he (hnow t ht) hf
    exact ⟨hm', fun M hM => hk' M (hk M hM)⟩

theorem sole_open (h : m.Settled) {monitor : Uuid} (hne : m.timeline monitor ≠ []) :
    ∃ i, (m.timeline monitor).filter (·.isOpen) = [i] ∧ (m.timeline monitor).getLast? = some i := by
  have hj := h.consistent.joined monitor
  rw [h.timeline_eq] at hne ⊢
  obtain ⟨as, i, hs⟩ := (List.eq_nil_or_concat _).resolve_left hne
  rw [List.concat_eq_append] at hs
  rw [hs] at hj ⊢
  exact ⟨i, hj.filter_isOpen, by simp⟩

theorem audit_eq_nil (h : m.Settled) (monitor : Uuid) :
    (StatusTimeline.audit (m.timeline monitor)).violations = [] := by
  rw [h.timeline_eq, (h.consistent.starts.ascending h.consistent.wellFormed monitor).audit_violations_iff]
  exact h.consistent.joined monitor

theorem closedPrior_eq (h : m.Settled) (he : e.compound = .whole) {r : ChangeRequest}
    (hr : r.startsAt = none) (hf : m.store.contains stamp.id = false) {change : StatusChange}
    (hok : (Memory.serve e m stamp (.record r)).1 = .ok change) :
    r.monitorId = some change.interval.monitorId ∧
      change.closedPrior =
        ((m.timeline change.interval.monitorId).filter (·.isOpen)).head?.map (·.id) := by
  rw [serve_record he h.idle] at hok
  cases hmonitor : r.monitorId with
  | none => simp [hmonitor] at hok
  | some monitor =>
    cases hstatus : r.statusId with
    | none => simp [hmonitor, hstatus] at hok
    | some status =>
      simp only [hmonitor, hstatus] at hok
      obtain ⟨change', m', heq, _, _, hm, hprior⟩ :=
        h.succeedWhole (Engine.opening monitor status r (m.rootCause e r)) hr hf
      rw [heq] at hok
      cases hok
      have hm : change.interval.monitorId = monitor := hm
      refine ⟨by rw [hm], ?_⟩
      rw [hprior, hm]
      show (m.store.history monitor).getLast?.map (·.id) = _
      rw [← h.timeline_eq]
      by_cases hnil : m.timeline monitor = []
      . rw [hnil]
        rfl
      . obtain ⟨i, hopen, hlast⟩ := h.sole_open hnil
        rw [hopen, hlast]
        rfl

end Settled

/--
What is promised of a monitor: nothing is wrong with its timeline, and if there are intervals in it then one of
them is open, the last one, which was also created last and gives the monitor's pointer.
-/
structure Upheld (m : Memory) (monitor : Uuid) : Prop where
  audited : (StatusTimeline.audit (m.timeline monitor)).violations = []
  current : m.timeline monitor ≠ [] → ∃ i,
    (m.timeline monitor).filter (·.isOpen) = [i] ∧ (m.timeline monitor).getLast? = some i ∧
      Row.latest? monitor m.store.rows = some i ∧ m.board.current? monitor = some i.statusId

theorem Settled.upheld (h : m.Settled) (monitor : Uuid) : m.Upheld monitor := by
  refine ⟨h.audit_eq_nil monitor, ?_⟩
  intro hne
  obtain ⟨i, hopen, hlast⟩ := h.sole_open hne
  refine ⟨i, hopen, hlast, ?_, ?_⟩
  . rw [h.consistent.wellFormed.latest?_eq, ← h.timeline_eq, hlast]
  . rw [h.timeline_eq] at hne hlast
    rw [h.pointers monitor hne, hlast]
    rfl

/--
What a run from an empty store has still to draw is new to the memory that it has reached.
-/
theorem fresh_reached (e : Engine) (directory : Directory) {earlier later : List Turn}
    (hids : ((earlier ++ later).map (·.stamp.id)).Nodup) :
    ∀ t ∈ later, (after e { directory } earlier).store.contains t.stamp.id = false := by
  rw [List.map_append, List.nodup_append] at hids
  intro t ht
  apply fresh_after
  . intro hmem
    exact hids.2.2 _ hmem _ (List.mem_map.2 ⟨t, ht, rfl⟩) rfl
  . rfl

/--
A run from an empty store goes on from a settled memory, where what it has still to draw is new.
-/
theorem settled_reached (he : e.compound = .whole) (directory : Directory) {earlier later : List Turn}
    (hnow : ∀ t ∈ earlier ++ later, t.request.StartsNow)
    (hids : ((earlier ++ later).map (·.stamp.id)).Nodup) :
    (after e { directory } earlier).Settled ∧
      ∀ t ∈ later, (after e { directory } earlier).store.contains t.stamp.id = false := by
  have hearlier : ∀ t ∈ earlier, t.request.StartsNow := fun t ht => hnow t (List.mem_append_left _ ht)
  refine ⟨?_, fresh_reached e directory hids⟩
  rw [List.map_append, List.nodup_append] at hids
  exact ((Settled.start directory).after he hearlier hids.1 fun _ _ => rfl).1

/--
In every memory that a run of requests reaches from an empty store the promises hold, whatever the clock reads;
a monitor that got an interval has one ever after; and a record closes the interval that was open.
-/
theorem run_upholds (e : Engine) (he : e.compound = .whole) (directory : Directory) (turns : List Turn)
    (hnow : ∀ t ∈ turns, t.request.StartsNow) (hids : (turns.map (·.stamp.id)).Nodup) :
    (∀ monitor, (after e { directory } turns).Upheld monitor) ∧
    (∀ monitor earlier, earlier <+: turns → (after e { directory } earlier).timeline monitor ≠ [] →
      (after e { directory } turns).timeline monitor ≠ []) ∧
    (∀ earlier r stamp change, earlier ++ [{ request := .record r, stamp }] <+: turns →
      (serve e (after e { directory } earlier) stamp (.record r)).1 = .ok change →
        r.monitorId = some change.interval.monitorId ∧
          change.closedPrior = (((after e { directory } earlier).timeline
            change.interval.monitorId).filter (·.isOpen)).head?.map (·.id)) := by
  refine ⟨?_, ?_, ?_⟩
  . intro monitor
    rw [← List.append_nil turns] at hnow hids
    exact (settled_reached he directory hnow hids).1.upheld monitor
  . -- the run goes on from the memory in which the monitor has got an interval
    intro monitor earlier ⟨later, heq⟩ hne
    subst heq
    obtain ⟨hm, hnew⟩ := settled_reached he directory hnow hids
    rw [List.map_append, List.nodup_append] at hids
    obtain ⟨hm', hk⟩ := hm.after he (fun t ht => hnow t (List.mem_append_right _ ht)) hids.2.1 hnew
    rw [after_append, hm'.timeline_eq]
    rw [hm.timeline_eq] at hne
    exact hk monitor hne
  . intro earlier r stamp change ⟨later, heq⟩ hok
    rw [List.append_assoc] at heq
    subst heq
    obtain ⟨hm, hnew⟩ := settled_reached he directory hnow hids
    have hr := hnow { request := .record r, stamp } (by simp)
    exact hm.closedPrior_eq he hr (hnew { request := .record r, stamp } (by simp)) hok

theorem run_upholds_clock_back :
    let monitor : Uuid := .ofSerial 1
    let record : Request := .record { monitorId := monitor, statusId := some (.ofSerial 2) }
    let turns : List Turn := [
      { request := record, stamp := { id := .ofSerial 11, now := .ofNanos 5000 } },
      { request := record, stamp := { id := .ofSerial 12, now := .ofNanos 4000 } },
      { request := record, stamp := { id := .ofSerial 13, now := .ofNanos 9000 } },
      { request := .delete (.ofSerial 12), stamp := { id := .ofSerial 14, now := .ofNanos 9000 } },
      { request := .purge (.ofNanos 9000), stamp := { id := .ofSerial 15, now := .ofNanos 9000 } }]
    ((∀ t ∈ turns, t.request.StartsNow) ∧ (turns.map (·.stamp.id)).Nodup) ∧
      (after {} {} turns).store.rows.length = 2 ∧ ∀ monitor, (after {} {} turns).Upheld monitor :=
  ⟨by decide, by decide +kernel, (run_upholds {} rfl {} _ (by decide) (by decide)).1⟩

end Memory

end StatusTimeline
