import StatusTimeline.Proofs.Engine.Replica
import StatusTimeline.Proofs.Timeline.Linked

/-!
This module contains the chains that records leave as long as nothing is removed. Wherever the intervals of a monitor
start and whatever the clock reads, each record closes the interval that the one before it has opened, at the creation
of its own.
-/

namespace StatusTimeline

theorem filterMap_singleton {α β : Type} (f : α → Option β) (a : α) : [a].filterMap f = (f a).toList := by
  rw [List.filterMap_cons]
  cases f a <;> rfl

namespace Interval

/--
Closing the last interval of a chain when another one is created links that one to it.
-/
theorem closing_linked (instant : Interval → Instant) {is : List Interval} {n : Interval}
    (hids : ((is ++ [n]).map (·.id)).Nodup) (hn : n.endsAt = none) :
    closing (is.getLast?.map (·.id)) (instant n) (linked instant is ++ [n]) = linked instant (is ++ [n]) := by
  rcases List.eq_nil_or_concat is with rfl | ⟨as, b, rfl⟩
  . exact congrArg (fun i => [i]) (reopened_eq hn).symm
  . rw [List.concat_eq_append] at hids ⊢
    rw [List.map_append, List.nodup_append] at hids
    have hne : some b.id ≠ some n.id := by
      intro heq
      exact hids.2.2 b.id (by simp) n.id (by simp) (Option.some.inj heq)
    rw [List.getLast?_concat, Option.map_some, closing_concat hne, linked_concat hids.1 hn]
    rfl

end Interval

namespace Request

/--
Whether the request can take intervals away.
-/
def Removes : Request → Prop
  | delete _ => True
  | purge _ => True
  | _ => False

instance : (r : Request) → Decidable r.Removes
  | .record _ => .isFalse id
  | .delete _ => .isTrue trivial
  | .get _ => .isFalse id
  | .current _ => .isFalse id
  | .timeline _ => .isFalse id
  | .audit _ => .isFalse id
  | .purge _ => .isTrue trivial

/--
The request to record a status of the monitor, if that is what it is and it names a status.
-/
def opening? (monitor : Uuid) : Request → Option ChangeRequest
  | record r => if r.monitorId = some monitor ∧ r.statusId.isSome then some r else none
  | _ => none

end Request

namespace Memory

/--
A request that has opened an interval of the monitor, with its answer.
-/
def opened? (monitor : Uuid) : ((r : Request) × Except Error r.Answer) → Option (ChangeRequest × StatusChange)
  | ⟨.record r, .ok change⟩ => if r.monitorId = some monitor then some (r, change) else none
  | _ => none

def chain (e : Engine) (m : Memory) (turns : List Turn) (monitor : Uuid) : List (ChangeRequest × StatusChange) :=
  (m.answers e turns).filterMap (opened? monitor)

/--
The intervals of a monitor are those that the requests of a chain have opened, each with the status that its request
names and with the start that it asks for, or else its creation. Each request has closed the interval of the one
before, which ends at the creation of the next one, and the pointer is that of the last one.
-/
structure Chained (m : Memory) (monitor : Uuid) (links : List (ChangeRequest × StatusChange)) : Prop where
  history : m.store.history monitor = Interval.linked (·.createdAt) (links.map (·.2.interval))
  opens : ∀ x ∈ links, x.2.interval.endsAt = none
  statuses : ∀ x ∈ links, x.1.statusId = some x.2.interval.statusId
  starts : ∀ x ∈ links, x.2.interval.startsAt = x.1.startsAt.getD x.2.interval.createdAt
  priors : ∀ earlier x later, links = earlier ++ x :: later →
    x.2.closedPrior = earlier.getLast?.map (·.2.interval.id)
  pointer : m.board.current? monitor = links.getLast?.map (·.2.interval.statusId)

variable {e : Engine} {m m' : Memory} {monitor : Uuid} {stamp : Stamp} {links : List (ChangeRequest × StatusChange)}

/--
A request to record a status that names the monitor and the status succeeds, and closes the interval that was created
last.
-/
theorem Sound.serve_record_opens (hm : m.Sound) (he : e.compound = .whole) {r : ChangeRequest} {status : Uuid}
    (hmonitor : r.monitorId = some monitor) (hstatus : r.statusId = some status)
    (hf : m.store.contains stamp.id = false) :
    let prior := (m.store.history monitor).getLast?.map (·.id)
    ∃ created m', Memory.serve e m stamp (.record r) =
        (.ok
          { interval := created
            closedPrior := prior
            pointer := { monitorId := monitor, statusId := created.statusId } }, m') ∧
      created.endsAt = none ∧ created.statusId = status ∧ created.startsAt = r.startsAt.getD created.createdAt ∧
      ((m.store.history monitor ++ [created]).map (·.id)).Nodup ∧
      m'.store.history monitor =
        Interval.closing prior created.createdAt (m.store.history monitor ++ [created]) ∧
      m'.board.current? monitor = some created.statusId := by
  intro prior
  let new := Engine.opening monitor status r (m.rootCause e r)
  have hprior : (Row.latest? new.monitorId m.store.rows).map (·.id) = prior := by
    rw [hm.wellFormed.latest?_eq]
    rfl
  obtain ⟨created, s', happ, _⟩ := hm.wellFormed.append_latest new hf
  have hcreated := Store.append_created happ
  have hhistory := Store.history_append happ new.monitorId
  rw [if_pos rfl, hprior] at hhistory
  have hserve := serve_record_ok he hm.idle hmonitor hstatus happ
  simp only [show Row.latest? monitor m.store.rows = Row.latest? new.monitorId m.store.rows from rfl, hprior] at hserve
  refine ⟨created, _, hserve, ?_, ?_, ?_, ?_, hhistory, ?_⟩
  . rw [hcreated]
    rfl
  . rw [hcreated]
    rfl
  . rw [hcreated]
    rfl
  . exact List.pairwise_map.2 (hm.wellFormed.ids_created hf happ)
  . exact (m.board.current?_set _ monitor).trans (if_pos rfl)

theorem chain_concat (turns : List Turn) (t : Turn) :
    m.chain e (turns ++ [t]) monitor = m.chain e turns monitor ++
      (opened? monitor ⟨t.request, (serve e (m.after e turns) t.stamp t.request).1⟩).toList := by
  unfold chain
  rw [answers_append, List.filterMap_append]
  exact congrArg _ (filterMap_singleton ..)

namespace Chained

theorem start (directory : Directory) : Chained { directory } monitor [] where
  history := rfl
  opens := by simp
  statuses := by simp
  starts := by simp
  priors := by simp
  pointer := rfl

theorem of_eq (h : m.Chained monitor links) (hhistory : m'.store.history monitor = m.store.history monitor)
    (hpointer : m'.board.current? monitor = m.board.current? monitor) : m'.Chained monitor links :=
  { h with history := hhistory.trans h.history, pointer := hpointer.trans h.pointer }

theorem getLast?_history (h : m.Chained monitor links) :
    (m.store.history monitor).getLast? = links.getLast?.map (·.2.interval) := by
  rw [h.history, Interval.getLast?_linked, List.getLast?_map]
  intro i hi
  obtain ⟨x, hx, rfl⟩ := List.mem_map.1 hi
  exact h.opens x hx

theorem priors_concat (h : m.Chained monitor links) {x : ChangeRequest × StatusChange}
    (hx : x.2.closedPrior = links.getLast?.map (·.2.interval.id)) :
    ∀ earlier y later, links ++ [x] = earlier ++ y :: later →
      y.2.closedPrior = earlier.getLast?.map (·.2.interval.id) := by
  intro earlier y later heq
  rcases List.eq_nil_or_concat later with rfl | ⟨later, z, rfl⟩
  . obtain ⟨rfl, hxy⟩ := List.append_inj' heq rfl
    cases hxy
    exact hx
  . rw [List.concat_eq_append, ← List.cons_append, ← List.append_assoc] at heq
    exact h.priors earlier y later (List.append_inj' heq rfl).1

/--
A request to record a status that names the monitor and the status goes on with the chain.
-/
theorem record (h : m.Chained monitor links) (hm : m.Sound) (he : e.compound = .whole) {r : ChangeRequest}
    {status : Uuid} (hmonitor : r.monitorId = some monitor) (hstatus : r.statusId = some status)
    (hf : m.store.contains stamp.id = false) :
    ∃ change m', serve e m stamp (.record r) = (.ok change, m') ∧ m'.Chained monitor (links ++ [(r, change)]) := by
  obtain ⟨created, m', hserve, hends, hcarries, hstarts, hids, hhistory, hpointer⟩ :=
    hm.serve_record_opens he hmonitor hstatus hf
  have hprior : (m.store.history monitor).getLast?.map (·.id) = links.getLast?.map (·.2.interval.id) := by
    rw [h.getLast?_history, Option.map_map]
    rfl
  rw [h.history, List.map_append, Interval.map_linked fun _ => rfl, ← List.map_append] at hids
  refine ⟨_, m', hserve, ?_, ?_, ?_, ?_, h.priors_concat hprior, ?_⟩
  . have hlinked := Interval.closing_linked (·.createdAt) hids hends
    rw [List.getLast?_map, Option.map_map] at hlinked
    rw [hhistory, hprior, h.history, List.map_append, List.map_singleton, ← hlinked]
    rfl
  . rw [List.forall_mem_append, List.forall_mem_singleton]
    exact ⟨h.opens, hends⟩
  . rw [List.forall_mem_append, List.forall_mem_singleton, hstatus]
    exact ⟨h.statuses, congrArg some hcarries.symm⟩
  . rw [List.forall_mem_append, List.forall_mem_singleton]
    exact ⟨h.starts, hstarts⟩
  . rw [hpointer, List.getLast?_concat]
    rfl

/--
A record of another monitor, and one that is refused, leave the chain as it is.
-/
theorem record_other (h : m.Chained monitor links) (hm : m.Sound) (he : e.compound = .whole) {r : ChangeRequest}
    (hr : ¬ (r.monitorId = some monitor ∧ r.statusId.isSome)) (hf : m.store.contains stamp.id = false) :
    opened? monitor ⟨.record r, (serve e m stamp (.record r)).1⟩ = none ∧
      (serve e m stamp (.record r)).2.Chained monitor links := by
  by_cases hmonitor : r.monitorId = some monitor
  . have hstatus : r.statusId = none := by simpa [hmonitor] using hr
    have hserve : serve e m stamp (.record r) = (.error (.validation .missingStatus), m) := by
      rw [serve_record he hm.idle, hmonitor, hstatus]
    rw [hserve]
    exact ⟨rfl, h⟩
  . obtain ⟨hhistory, hpointer⟩ := hm.serve_elsewhere (r := .record r) he trivial hf hmonitor
    refine ⟨?_, h.of_eq hhistory hpointer⟩
    cases (serve e m stamp (.record r)).1 <;> simp [opened?, hmonitor]

/--
What a request that takes nothing away does to the chain of a monitor is told by its answer.
-/
theorem serve (h : m.Chained monitor links) (hm : m.Sound) (he : e.compound = .whole) {r : Request}
    (hr : ¬ r.Removes) (hf : m.store.contains stamp.id = false) :
    (opened? monitor ⟨r, (Memory.serve e m stamp r).1⟩).map (·.1) = r.opening? monitor ∧
      (Memory.serve e m stamp r).2.Chained monitor
        (links ++ (opened? monitor ⟨r, (Memory.serve e m stamp r).1⟩).toList) := by
  cases r with
  | record r =>
    by_cases hopening : r.monitorId = some monitor ∧ r.statusId.isSome
    . obtain ⟨status, hstatus⟩ := Option.isSome_iff_exists.1 hopening.2
      obtain ⟨change, m', hserve, hchained⟩ := h.record hm he hopening.1 hstatus hf
      rw [hserve]
      simp only [opened?, Request.opening?, hopening.1, hopening.2, if_true, and_self]
      exact ⟨rfl, hchained⟩
    . obtain ⟨hnone, hchained⟩ := h.record_other hm he hopening hf
      rw [hnone, Request.opening?, if_neg hopening, Option.toList_none, List.append_nil]
      exact ⟨rfl, hchained⟩
  | delete id => exact absurd trivial hr
  | purge cutoff => exact absurd trivial hr
  | get id =>
    refine ⟨rfl, ?_⟩
    rw [serve_get_snd]
    exact (List.append_nil links).symm ▸ h
  | _ =>
    refine ⟨rfl, ?_⟩
    show m.Chained monitor (links ++ [])
    rwa [List.append_nil]

theorem after (he : e.compound = .whole) (directory : Directory) {turns : List Turn}
    (hids : (turns.map (·.stamp.id)).Nodup) (hkept : ∀ t ∈ turns, ¬ t.request.Removes) (monitor : Uuid) :
    (Memory.chain e { directory } turns monitor).map (·.1) = turns.filterMap (·.request.opening? monitor) ∧
      (Memory.after e { directory } turns).Chained monitor (Memory.chain e { directory } turns monitor) := by
  induction turns using List.reverseRecOn with
  | nil => exact ⟨rfl, .start directory⟩
  | append_singleton turns t ih =>
    have hids' := nodup_earlier (List.prefix_append turns [t]) hids
    obtain ⟨hrequests, hchained⟩ := ih hids' fun t' ht' => hkept t' (by simp [ht'])
    have hm := Sound.after he directory hids'
    have hf := fresh_reached e directory hids t (by simp)
    obtain ⟨hrequest, hchained'⟩ := hchained.serve hm he (hkept t (by simp)) hf
    rw [chain_concat, after_append]
    refine ⟨?_, hchained'⟩
    rw [List.map_append, hrequests, List.filterMap_append, filterMap_singleton, ← hrequest, Option.toList_map]

end Chained

/--
In a run from an empty store in which nothing is removed, the intervals of a monitor are a chain, wherever they start and
whatever the clock reads. All requests that name the monitor and a status are in it, in the order in which they are
served, which is that of the creation times. The last interval is open and the current one.
-/
theorem creation_chain (e : Engine) (he : e.compound = .whole) (directory : Directory) (turns : List Turn)
    (hids : (turns.map (·.stamp.id)).Nodup) (hkept : ∀ t ∈ turns, ¬ t.request.Removes) (monitor : Uuid) :
    let m := after e { directory } turns
    let links := chain e { directory } turns monitor
    links.map (·.1) = turns.filterMap (·.request.opening? monitor) ∧
      m.Chained monitor links ∧
      (links.map (·.2.interval.createdAt)).Pairwise (· < ·) ∧
      ∀ stamp, (serve e m stamp (.current monitor)).1 = .ok (links.getLast?.map (·.2.interval)) := by
  intro m links
  obtain ⟨hrequests, hchained⟩ : _ ∧ m.Chained monitor links := Chained.after he directory hids hkept monitor
  have hw : m.store.WellFormed := (Sound.after he directory hids).wellFormed
  refine ⟨hrequests, hchained, ?_, ?_⟩
  . have hrecency : ((m.store.history monitor).map (·.createdAt)).Pairwise (· < ·) := by
      rw [Store.history, List.map_map, List.pairwise_map]
      exact hw.recency monitor
    rw [hchained.history, Interval.map_linked fun _ => rfl, List.map_map] at hrecency
    exact hrecency
  . intro stamp
    show Except.ok (Row.latest? monitor m.store.rows) = _
    rw [hw.latest?_eq, hchained.getLast?_history]

/--
A run over two monitors. The clock steps back after the first record and stands still in the end, and the intervals of
the first monitor start in another order than that of their creation.
-/
def unsteady : List Turn :=
  let record (serial monitor : Nat) (start : Option Int) (now : Int) : Turn := {
    request := .record {
      monitorId := some (.ofSerial monitor)
      statusId := some (.ofSerial (serial + 10))
      startsAt := start.map .ofNanos }
    stamp := { id := .ofSerial serial, now := .ofNanos now } }
  [record 11 1 (some 9000) 5000, record 12 2 none 4000, record 13 1 (some 1000) 3000, record 14 1 none 7000]

theorem creation_chain_unsteady :
    let monitor : Uuid := .ofSerial 1
    let links := chain {} {} unsteady monitor
    ((unsteady.map (·.stamp.id)).Nodup ∧ ∀ t ∈ unsteady, ¬ t.request.Removes) ∧
      (after {} {} unsteady).Chained monitor links ∧
      links.map (·.2.closedPrior) = [none, some (.ofSerial 11), some (.ofSerial 13)] ∧
      ((after {} {} unsteady).store.history monitor).map (fun i => (i.startsAt, i.createdAt, i.endsAt)) =
        [(.ofNanos 9000, .ofNanos 5000, some (.ofNanos 7000)), (.ofNanos 1000, .ofNanos 7000, some (.ofNanos 8000)),
          (.ofNanos 8000, .ofNanos 8000, none)] :=
  have hids : (unsteady.map (·.stamp.id)).Nodup := by decide +kernel
  have hkept : ∀ t ∈ unsteady, ¬ t.request.Removes := by decide
  ⟨⟨hids, hkept⟩, (creation_chain {} rfl {} unsteady hids hkept (.ofSerial 1)).2.1, by decide +kernel,
    by decide +kernel⟩

end Memory

end StatusTimeline
