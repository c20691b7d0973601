import Mathlib.Data.List.Induction
import StatusTimeline.Proofs.Engine.Once
import StatusTimeline.Proofs.Store.Balance
import StatusTimeline.Proofs.Store.Sorted

/-!
This module contains runs of requests that may choose the starts of the intervals that they open. Creation closes the
most recently created interval while a deletion repairs by start, and where the two orders disagree a monitor may be
left without an open interval, or with several. The requests that do so are told from the state in which they are
served, and a purge empties a monitor only after one of them.
-/

namespace StatusTimeline

namespace Store

/--
Whether a request makes the number of a monitor's open intervals change: a record that closes an interval that is not
open, or a deletion that misjoins the neighbours of its target.
-/
def Missteps (s : Store) : Request → Prop
  | .record r => ∃ monitor i, r.monitorId = some monitor ∧ r.statusId.isSome ∧
      Row.latest? monitor s.rows = some i ∧ i.isOpen = false
  | .delete id => ∃ row, s.find? id = some row ∧
      1 < (Row.ofMonitor row.interval.monitorId s.rows).length ∧
      (Row.neighbors row.interval.monitorId row.interval.startsAt s.rows).Misjoins row.interval
  | _ => False

def Balanced (s : Store) : Prop := ∀ monitor, s.history monitor ≠ [] → s.openCount monitor = 1

/--
What serving a request makes of a store: nothing, or one monitor's intervals are changed, or some are purged.
-/
inductive Becomes (s : Store) : Request → Store → Prop where
  | same {r : Request} (hr : ¬ s.Missteps r) (hpurge : ∀ cutoff, r ≠ .purge cutoff) : Becomes s r s
  | opened {r : ChangeRequest} {s' : Store} (monitor : Uuid) (hmonitor : r.monitorId = some monitor)
    (hstatus : r.statusId.isSome) (hne : s'.history monitor ≠ [])
    (hcount : s'.openCount monitor + ((Row.latest? monitor s.rows).any (·.isOpen)).toNat =
      s.openCount monitor + 1)
    (hother : ∀ M, M ≠ monitor → s'.history M = s.history M) : Becomes s (.record r) s'
  | cut {id : Uuid} {s' : Store} (row : Row) (n : Neighbors) (hrow : s.find? id = some row)
    (hn : Row.neighbors row.interval.monitorId row.interval.startsAt s.rows = n)
    (hmany : 1 < (s.history row.interval.monitorId).length)
    (hlength : (s'.history row.interval.monitorId).length + 1 =
      (s.history row.interval.monitorId).length)
    (hcount : s'.openCount row.interval.monitorId + row.interval.isOpen.toNat +
      (n.before.any (·.isOpen)).toNat = s.openCount row.interval.monitorId + n.reopens.toNat)
    (hbound : row.interval.isOpen.toNat + (n.before.any (·.isOpen)).toNat ≤
      s.openCount row.interval.monitorId)
    (hother : ∀ M, M ≠ row.interval.monitorId → s'.history M = s.history M) :
    Becomes s (.delete id) s'
  | purged (cutoff : Instant) : Becomes s (.purge cutoff) (s.purge cutoff).2

variable {s s' : Store} {monitor : Uuid} {r : Request}

/--
Where the other monitors keep their intervals, a store stays balanced as far as the one that is left is.
-/
theorem Balanced.update_iff (h : s.Balanced) (hother : ∀ M, M ≠ monitor → s'.history M = s.history M)
    (hne : s'.history monitor ≠ []) : s'.Balanced ↔ s'.openCount monitor = 1 := by
  constructor
  . intro h'
    exact h' monitor hne
  . intro hone M hM
    by_cases heq : M = monitor
    . rw [heq]
      exact hone
    . rw [hother M heq] at hM
      rw [openCount_congr (hother M heq)]
      exact h M hM

theorem Balanced.purge (h : s.Balanced) (cutoff : Instant) : (s.purge cutoff).2.Balanced := by
  intro M hM
  rw [openCount_purge]
  apply h M
  intro hnil
  simp [history_purge, hnil] at hM

/--
From a balanced store a request leads to a balanced one exactly when it is no misstep.
-/
theorem Becomes.balanced_iff (h : Becomes s r s') (hw : s.WellFormed) (hb : s.Balanced) :
    s'.Balanced ↔ ¬ s.Missteps r := by
  cases h with
  | same hr hpurge => exact iff_of_true hb hr
  | purged cutoff => exact iff_of_true (hb.purge cutoff) id
  | opened monitor hmonitor hstatus hne hcount hother =>
    rw [hb.update_iff hother hne]
    cases hlatest : Row.latest? monitor s.rows with
    | none =>
      have hnil : s.history monitor = [] := by
        rw [hw.latest?_eq] at hlatest
        simpa using hlatest
      have hzero : s.openCount monitor = 0 := by simp [openCount, hnil]
      have hone : s'.openCount monitor = 1 := by simpa [hlatest, hzero] using hcount
      simp [Missteps, hmonitor, hlatest, hone]
    | some i =>
      have hone := hb monitor (List.ne_nil_of_mem (latest?_mem hlatest))
      simp only [hlatest, Option.any_some, hone] at hcount
      cases hopen : i.isOpen <;> simp_all [Missteps]
  | @cut id _ row n hrow hn hmany hlength hcount hbound hother =>
    have hne : s.history row.interval.monitorId ≠ [] := List.ne_nil_of_length_pos (by omega)
    have hne' : s'.history row.interval.monitorId ≠ [] := List.ne_nil_of_length_pos (by omega)
    rw [hb _ hne] at hcount hbound
    rw [hb.update_iff hother hne']
    have hmissteps : s.Missteps (.delete id) ↔ n.Misjoins row.interval := by
      simp [Missteps, hrow, hn, length_history, hmany]
    rw [hmissteps]
    exact Neighbors.one_iff_not_misjoins hcount hbound

/--
A request empties a monitor exactly when it purges and every interval of the monitor has ended early enough.
-/
theorem Becomes.history_eq_nil_iff (h : Becomes s r s') (hne : s.history monitor ≠ []) :
    s'.history monitor = [] ↔
      ∃ cutoff, r = .purge cutoff ∧ ∀ i ∈ s.history monitor, i.endedBefore cutoff = true := by
  cases h with
  | same hr hpurge =>
    apply iff_of_false hne
    intro ⟨cutoff, hr, _⟩
    exact hpurge cutoff hr
  | purged cutoff => simp [history_purge]
  | opened M hmonitor hstatus hne' hcount hother =>
    apply iff_of_false _ (by simp)
    by_cases heq : monitor = M
    . rw [heq]
      exact hne'
    . rw [hother monitor heq]
      exact hne
  | cut row n hrow hn hmany hlength hcount hbound hother =>
    apply iff_of_false _ (by simp)
    by_cases heq : monitor = row.interval.monitorId
    . rw [heq]
      exact List.ne_nil_of_length_pos (by omega)
    . rw [hother monitor heq]
      exact hne

theorem balanced_iff_timeline (s : Store) :
    s.Balanced ↔ ∀ monitor, Row.timeline monitor s.rows ≠ [] →
      ∃ i, (Row.timeline monitor s.rows).filter (·.isOpen) = [i] := by
  unfold Balanced
  apply forall_congr'
  intro monitor
  have hcount : s.openCount monitor = ((Row.timeline monitor s.rows).filter (·.isOpen)).length := by
    rw [openCount, ← (s.timeline_perm monitor).countP_eq, List.countP_eq_length_filter]
  rw [hcount, List.length_eq_one_iff, ne_eq, ← timeline_eq_nil_iff]

end Store

namespace Memory

structure Sound (m : Memory) : Prop where
  idle : m.locks.claims = []
  wellFormed : m.store.WellFormed

variable {e : Engine} {m : Memory} {stamp : Stamp} {r : Request}

theorem nodup_earlier {earlier turns : List Turn} (h : earlier <+: turns)
    (hids : (turns.map (·.stamp.id)).Nodup) : (earlier.map (·.stamp.id)).Nodup :=
  hids.sublist (h.sublist.map _)

namespace Sound

theorem start (directory : Directory) : Sound { directory } where
  idle := rfl
  wellFormed := Store.consistent_empty.wellFormed

theorem becomes_record (h : m.Sound) {monitor status : Uuid} {r : ChangeRequest} (hm : r.monitorId = some monitor)
    (hs : r.statusId = some status) (rootCause : Option String) (hf : m.store.contains stamp.id = false) :
    m.store.Becomes (.record r)
      (m.succeedWhole stamp (Engine.opening monitor status r rootCause)).2.store := by
  obtain ⟨created, s', happ, hne, hcount, hother⟩ :=
    h.wellFormed.append_latest (Engine.opening monitor status r rootCause) hf
  simp only [succeedWhole, happ]
  exact .opened monitor hm (by simp [hs]) hne hcount hother

theorem becomes_delete (h : m.Sound) (id : Uuid) :
    m.store.Becomes (.delete id) (m.deleteWhole id).2.store := by
  unfold deleteWhole
  cases hf : m.store.find? id with
  | none =>
    apply Store.Becomes.same
    . simp [Store.Missteps, hf]
    . simp
  | some row =>
    dsimp only
    split
    . next hfew =>
      apply Store.Becomes.same
      . simp only [Store.Missteps, hf]
        intro ⟨row', heq, hmany, _⟩
        cases heq
        omega
      . simp
    . next hmany =>
      have hmem : row.interval ∈ m.store.history row.interval.monitorId :=
        Store.mem_history.2 ⟨row, (Store.find?_mem hf).1, rfl, rfl⟩
      obtain ⟨s', happ, hlength, hcount, hbound, hother⟩ := h.wellFormed.applyDeletion_restitch hmem rfl
      have hstore : (m.cutOutWhole row.interval).2.store = s' := by
        simp only [cutOutWhole, happ]
        cases latestPointer s' row.interval.monitorId <;> rfl
      rw [hstore]
      rw [Store.length_history] at hmany
      exact .cut row _ hf rfl (by omega) hlength hcount hbound hother

/--
What serving a request makes of the store, and that the memory stays sound.
-/
theorem serve (h : m.Sound) (he : e.compound = .whole) (r : Request) (hf : m.store.contains stamp.id = false) :
    m.store.Becomes r (serve e m stamp r).2.store ∧ (serve e m stamp r).2.Sound := by
  cases r with
  | record r =>
    rw [serve_record he h.idle]
    split
    . next hmonitor =>
      refine ⟨.same ?_ (by simp), h⟩
      simp [Store.Missteps, hmonitor]
    . next hstatus =>
      refine ⟨.same ?_ (by simp), h⟩
      simp [Store.Missteps, hstatus]
    . next monitor status hmonitor hstatus =>
      refine ⟨h.becomes_record hmonitor hstatus _ hf, rfl, ?_⟩
      obtain ⟨close, hstore⟩ := succeedWhole_store m stamp
        (Engine.opening monitor status r (m.rootCause e r))
      rw [hstore]
      exact h.wellFormed.append _ close hf
  | delete id =>
    rw [serve_delete he h.idle]
    split
    . next hnone =>
      refine ⟨.same ?_ (by simp), h⟩
      simp [Store.Missteps, hnone]
    . refine ⟨h.becomes_delete id, rfl, ?_⟩
      rcases deleteWhole_store (m := m) id with hstore | ⟨plan, hstore⟩
      . rw [hstore]
        exact h.wellFormed
      . rw [hstore]
        exact h.wellFormed.applyDeletion plan
  | purge cutoff =>
    rw [serve_purge]
    exact ⟨.purged cutoff, h.idle, h.wellFormed.filter _⟩
  | get id =>
    rw [serve_get_snd]
    exact ⟨.same not_false (by simp), h⟩
  | _ => exact ⟨.same not_false (by simp), h⟩

theorem after (he : e.compound = .whole) (directory : Directory) {turns : List Turn}
    (hids : (turns.map (·.stamp.id)).Nodup) : (after e { directory } turns).Sound := by
  apply after_induction (P := Sound) hids (fun _ _ => rfl)
  . exact .start directory
  . intro m t _ h hf
    exact (h.serve he t.request hf).2

theorem becomes_after (he : e.compound = .whole) (directory : Directory) {turns : List Turn} {t : Turn}
    (hids : ((turns ++ [t]).map (·.stamp.id)).Nodup) :
    (Memory.after e { directory } turns).store.Becomes t.request
      (Memory.after e { directory } (turns ++ [t])).store := by
  have hf := fresh_reached e directory hids t (by simp)
  have hm := after he directory (nodup_earlier (List.prefix_append turns [t]) hids)
  rw [after_append]
  exact (hm.serve he t.request hf).1

end Sound

/--
The stores of a run up to a turn are balanced as long as no turn before is a misstep.
-/
theorem balanced_of_no_misstep (he : e.compound = .whole) (directory : Directory) {turns : List Turn}
    (hids : (turns.map (·.stamp.id)).Nodup)
    (hsteps : ∀ earlier t, earlier ++ [t] <+: turns → ¬ (after e { directory } earlier).store.Missteps t.request) :
    (after e { directory } turns).store.Balanced := by
  induction turns using List.reverseRecOn with
  | nil =>
    intro monitor hne
    exact absurd rfl hne
  | append_singleton turns t ih =>
    have hb : (after e { directory } turns).store.Balanced := by
      apply ih (nodup_earlier (List.prefix_append ..) hids)
      intro earlier t' hpre
      exact hsteps earlier t' (hpre.trans (List.prefix_append ..))
    have hw := (Sound.after he directory (nodup_earlier (List.prefix_append ..) hids)).wellFormed
    rw [(Sound.becomes_after he directory hids).balanced_iff hw hb]
    exact hsteps turns t List.prefix_rfl

/--
Throughout a run every monitor that has an interval has exactly one open one, exactly when no request of the run is a
misstep in the state in which it is served.
-/
theorem sole_open_iff (e : Engine) (he : e.compound = .whole) (directory : Directory) (turns : List Turn)
    (hids : (turns.map (·.stamp.id)).Nodup) :
    (∀ earlier, earlier <+: turns → ∀ monitor, (after e { directory } earlier).timeline monitor ≠ [] →
      ∃ i, ((after e { directory } earlier).timeline monitor).filter (·.isOpen) = [i]) ↔
    ∀ earlier t, earlier ++ [t] <+: turns →
      ¬ (after e { directory } earlier).store.Missteps t.request := by
  have htimeline : ∀ earlier, (after e { directory } earlier).store.Balanced ↔ _ :=
    fun earlier => Store.balanced_iff_timeline _
  constructor
  . intro hopen earlier t hpre
    have hids' := nodup_earlier hpre hids
    have hb := (htimeline earlier).2 (hopen earlier ((List.prefix_append ..).trans hpre))
    have hb' := (htimeline (earlier ++ [t])).2 (hopen _ hpre)
    have hw := (Sound.after he directory (nodup_earlier (List.prefix_append ..) hids')).wellFormed
    rwa [(Sound.becomes_after he directory hids').balanced_iff hw hb] at hb'
  . intro hsteps earlier hpre
    apply (htimeline earlier).1
    apply balanced_of_no_misstep he directory (nodup_earlier hpre hids)
    intro earlier' t hpre'
    exact hsteps earlier' t (hpre'.trans hpre)

/--
A run that records two intervals of a monitor, of which the second starts before the first, and deletes the second.
-/
def backdated : List Turn :=
  let record (start : Int) : Request :=
    .record { monitorId := some (.ofSerial 1), statusId := some (.ofSerial 2), startsAt := some (.ofNanos start) }
  [{ request := record 5000, stamp := { id := .ofSerial 11, now := .ofNanos 9000 } },
    { request := record 1000, stamp := { id := .ofSerial 12, now := .ofNanos 9000 } },
    { request := .delete (.ofSerial 12), stamp := { id := .ofSerial 13, now := .ofNanos 9000 } }]

/--
The monitor keeps its first interval, which the second one has closed.
-/
theorem none_open_backdated :
    (∀ t ∈ backdated, t.request.Writes) ∧ (backdated.map (·.stamp.id)).Nodup ∧
      (after {} {} backdated).timeline (.ofSerial 1) ≠ [] ∧
      ((after {} {} backdated).timeline (.ofSerial 1)).filter (·.isOpen) = [] := by
  decide +kernel

theorem sole_open_iff_backdated :
    (backdated.map (·.stamp.id)).Nodup ∧
      ∃ earlier t, earlier ++ [t] <+: backdated ∧ (after {} {} earlier).store.Missteps t.request := by
  refine ⟨by decide +kernel, ?_⟩
  apply Classical.byContradiction
  intro hnone
  have hopen := (sole_open_iff {} rfl {} backdated (by decide +kernel)).2 (by
    intro earlier t hpre hstep
    exact hnone ⟨earlier, t, hpre, hstep⟩)
  obtain ⟨i, hi⟩ := hopen backdated List.prefix_rfl (.ofSerial 1) (by decide +kernel)
  have hnil : ((after {} {} backdated).timeline (.ofSerial 1)).filter (·.isOpen) = [] := by decide +kernel
  rw [hnil] at hi
  cases hi

/--
A turn empties a monitor exactly when it purges and all intervals of the monitor are closed and ended before the
cutoff. That takes a misstep in an earlier turn.
-/
theorem turn_empties_iff (e : Engine) (he : e.compound = .whole) (directory : Directory) (turns : List Turn) (t : Turn)
    (hids : ((turns ++ [t]).map (·.stamp.id)).Nodup) (monitor : Uuid)
    (hne : (after e { directory } turns).timeline monitor ≠ []) :
    ((after e { directory } (turns ++ [t])).timeline monitor = [] ↔
      ∃ cutoff, t.request = .purge cutoff ∧
        ∀ i ∈ (after e { directory } turns).timeline monitor, ∃ endsAt, i.endsAt = some endsAt ∧ endsAt < cutoff) ∧
    ((after e { directory } (turns ++ [t])).timeline monitor = [] →
      ∃ earlier u, earlier ++ [u] <+: turns ∧ (after e { directory } earlier).store.Missteps u.request) := by
  have hiff : (after e { directory } (turns ++ [t])).timeline monitor = [] ↔
      ∃ cutoff, t.request = .purge cutoff ∧
        ∀ i ∈ (after e { directory } turns).timeline monitor,
          ∃ endsAt, i.endsAt = some endsAt ∧ endsAt < cutoff := by
    unfold timeline at hne ⊢
    rw [ne_eq, Store.timeline_eq_nil_iff] at hne
    rw [Store.timeline_eq_nil_iff, (Sound.becomes_after he directory hids).history_eq_nil_iff hne]
    simp only [Store.mem_timeline, Interval.endedBefore_iff]
  refine ⟨hiff, ?_⟩
  intro hnil
  apply Classical.byContradiction
  intro hnone
  -- without a misstep there is an open interval, and that one has not ended
  obtain ⟨cutoff, _, hended⟩ := hiff.1 hnil
  have hb : (after e { directory } turns).store.Balanced := by
    apply balanced_of_no_misstep he directory (nodup_earlier (List.prefix_append ..) hids)
    intro earlier u hpre hstep
    exact hnone ⟨earlier, u, hpre, hstep⟩
  obtain ⟨i, hi⟩ := (Store.balanced_iff_timeline _).1 hb monitor hne
  obtain ⟨himem, hiopen⟩ := List.mem_filter.1 (hi ▸ List.mem_singleton_self i)
  obtain ⟨endsAt, hends, _⟩ := hended i himem
  simp [Interval.isOpen, hends] at hiopen

def latePurge : Turn :=
  { request := .purge (.ofNanos 20000), stamp := { id := .ofSerial 14, now := .ofNanos 20000 } }

theorem emptied_by_latePurge :
    ((backdated ++ [latePurge]).map (·.stamp.id)).Nodup ∧
      (after {} {} backdated).timeline (.ofSerial 1) ≠ [] ∧
      (after {} {} (backdated ++ [latePurge])).timeline (.ofSerial 1) = [] := by
  decide +kernel

theorem turn_empties_iff_latePurge :
    (after {} {} backdated).timeline (.ofSerial 1) ≠ [] ∧
      (∃ cutoff, latePurge.request = .purge cutoff ∧
        ∀ i ∈ (after {} {} backdated).timeline (.ofSerial 1),
          ∃ endsAt, i.endsAt = some endsAt ∧ endsAt < cutoff) ∧
      ∃ earlier u, earlier ++ [u] <+: backdated ∧ (after {} {} earlier).store.Missteps u.request := by
  have hne : (after {} {} backdated).timeline (.ofSerial 1) ≠ [] := by decide +kernel
  have hnil : (after {} {} (backdated ++ [latePurge])).timeline (.ofSerial 1) = [] := by decide +kernel
  have h := turn_empties_iff {} rfl {} backdated latePurge (by decide +kernel) (.ofSerial 1) hne
  exact ⟨hne, h.1.1 hnil, h.2 hnil⟩

end Memory

end StatusTimeline
