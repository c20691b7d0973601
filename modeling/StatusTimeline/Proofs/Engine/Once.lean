import StatusTimeline.Proofs.Engine.Runs
import StatusTimeline.Proofs.Store.Lineage

/-!
This module contains runs of requests that record and delete, each with an identifier that is new. Between them the
intervals of a monitor are only added at the end and removed for good, so that no interval is deleted
twice, and where nothing is deleted none is closed twice.
-/

namespace StatusTimeline

def Request.Writes : Request → Prop
  | .record _ => True
  | .delete _ => True
  | _ => False

instance : (r : Request) → Decidable r.Writes
  | .record _ => .isTrue trivial
  | .delete _ => .isTrue trivial
  | .get _ => .isFalse id
  | .current _ => .isFalse id
  | .timeline _ => .isFalse id
  | .audit _ => .isFalse id
  | .purge _ => .isFalse id

def Turn.draws (t : Turn) : List Uuid :=
  match t.request with
  | .record r => if r.monitorId.isSome && r.statusId.isSome then [t.stamp.id] else []
  | _ => []

theorem Turn.draws_nodup (t : Turn) : t.draws.Nodup := by
  unfold Turn.draws
  split
  . split <;> simp
  . simp

namespace Memory

/--
A memory is ready for a run of records and deletions whose identifiers are new.
-/
structure Prepared (m : Memory) (turns : List Turn) : Prop where
  idle : m.locks.claims = []
  wellFormed : m.store.WellFormed
  writes : ∀ t ∈ turns, t.request.Writes
  fresh : (m.store.ids ++ turns.flatMap (·.draws)).Nodup

variable {e : Engine} {m : Memory} {stamp : Stamp} {id : Uuid} {t : Turn} {ts : List Turn}

theorem succeedWhole_store (m : Memory) (stamp : Stamp) (new : NewInterval) :
    ∃ close, (m.succeedWhole stamp new).2.store = (m.store.append stamp new close).2 := by
  refine ⟨(Row.latest? new.monitorId m.store.rows).map (·.id), ?_⟩
  unfold succeedWhole
  dsimp only
  cases m.store.append stamp new ((Row.latest? new.monitorId m.store.rows).map (·.id)) with
  | mk outcome store => cases outcome <;> rfl

theorem cutOutWhole_store (target : Interval) :
    ∃ plan applied store, plan.target = target.id ∧ m.store.applyDeletion plan = (applied, store) ∧
      (m.cutOutWhole target).2.store = store ∧
      ∀ outcome, (m.cutOutWhole target).1 = .ok outcome → applied = .ok () := by
  unfold cutOutWhole
  dsimp only
  cases happ : m.store.applyDeletion
    (.restitch target (Row.neighbors target.monitorId target.startsAt m.store.rows)) with
  | mk applied store =>
    refine ⟨_, applied, store, rfl, happ, ?_⟩
    cases applied with
    | error err => exact ⟨rfl, fun _ h => by cases h⟩
    | ok _ => cases h : latestPointer store target.monitorId <;> exact ⟨by simp [putPointer, h], fun _ _ => rfl⟩

theorem deleteWhole_store (id : Uuid) :
    (m.deleteWhole id).2.store = m.store ∨
      ∃ plan, (m.deleteWhole id).2.store = (m.store.applyDeletion plan).2 := by
  unfold deleteWhole
  cases m.store.find? id with
  | none => exact .inl rfl
  | some row =>
    dsimp only
    split
    . exact .inl rfl
    . obtain ⟨plan, _, _, _, happ, hstore, _⟩ := cutOutWhole_store (m := m) row.interval
      exact .inr ⟨plan, by rw [happ, hstore]⟩

theorem deleteWhole_ok {outcome : DeletionOutcome} (h : (m.deleteWhole id).1 = .ok outcome) :
    id ∈ m.store.ids ∧ id ∉ (m.deleteWhole id).2.store.ids := by
  unfold deleteWhole at h ⊢
  cases hf : m.store.find? id with
  | none =>
    rw [hf] at h
    cases h
  | some row =>
    obtain ⟨hmem, hid⟩ := Store.find?_mem hf
    refine ⟨List.mem_map.2 ⟨row, hmem, hid⟩, ?_⟩
    rw [hf] at h
    dsimp only at h ⊢
    split at h
    . cases h
    . next hn =>
      obtain ⟨plan, applied, store, htarget, happ, hstore, hok⟩ := cutOutWhole_store (m := m) row.interval
      rw [hok outcome h] at happ
      rw [if_neg hn, hstore, ← hid, ← htarget]
      exact Store.erased_of_applyDeletion happ

/--
What a request that records or deletes does to the store: nothing, or it appends with the identifier that is drawn for
it, or it deletes.
-/
theorem serve_writes (he : e.compound = .whole) (hidle : m.locks.claims = []) (ht : t.request.Writes) :
    (serve e m t.stamp t.request).2.locks.claims = [] ∧
      ((serve e m t.stamp t.request).2.store = m.store ∨
        (∃ new close, t.draws = [t.stamp.id] ∧
          (serve e m t.stamp t.request).2.store = (m.store.append t.stamp new close).2) ∨
        ∃ plan, (serve e m t.stamp t.request).2.store = (m.store.applyDeletion plan).2) := by
  obtain ⟨request, stamp⟩ := t
  cases request with
  | record r =>
    dsimp only
    rw [serve_record he hidle]
    split
    . exact ⟨hidle, .inl rfl⟩
    . exact ⟨hidle, .inl rfl⟩
    . next monitor status hmonitor hstatus =>
      obtain ⟨close, hstore⟩ := succeedWhole_store m stamp
        (Engine.opening monitor status r (m.rootCause e r))
      refine ⟨rfl, .inr (.inl ⟨_, close, ?_, hstore⟩)⟩
      simp [Turn.draws, hmonitor, hstatus]
  | delete id =>
    dsimp only
    rw [serve_delete he hidle]
    split
    . exact ⟨hidle, .inl rfl⟩
    . rcases deleteWhole_store (m := m) id with hstore | ⟨plan, hstore⟩
      . exact ⟨rfl, .inl hstore⟩
      . exact ⟨rfl, .inr (.inr ⟨plan, hstore⟩)⟩
  | _ => cases ht

theorem ids_serve (he : e.compound = .whole) (hidle : m.locks.claims = []) (ht : t.request.Writes) :
    List.Sublist (serve e m t.stamp t.request).2.store.ids (m.store.ids ++ t.draws) := by
  obtain ⟨_, heq | ⟨new, close, hdraws, heq⟩ | ⟨plan, heq⟩⟩ := serve_writes he hidle ht
  . rw [heq]
    exact List.sublist_append_left ..
  . rw [heq, hdraws]
    exact Store.ids_append
  . rw [heq]
    exact Store.ids_applyDeletion.trans (List.sublist_append_left ..)

namespace Prepared

theorem serve (h : m.Prepared (t :: ts)) (he : e.compound = .whole) :
    (Memory.serve e m t.stamp t.request).2.Prepared ts := by
  have hfresh := h.fresh
  rw [List.flatMap_cons, ← List.append_assoc] at hfresh
  have ht := h.writes t List.mem_cons_self
  obtain ⟨hidle, hstore⟩ := serve_writes he h.idle ht
  refine ⟨hidle, ?_, fun t' ht' => h.writes t' (List.mem_cons_of_mem t ht'),
    List.Nodup.sublist ((ids_serve he h.idle ht).append (.refl _)) hfresh⟩
  rcases hstore with heq | ⟨new, close, hdraws, heq⟩ | ⟨plan, heq⟩
  . exact heq ▸ h.wellFormed
  . rw [heq]
    apply h.wellFormed.append
    rw [← Bool.not_eq_true, ← Store.mem_ids]
    intro hmem
    rw [hdraws, List.append_assoc, List.nodup_append] at hfresh
    exact hfresh.2.2 _ hmem _ (by simp) rfl
  . rw [heq]
    exact h.wellFormed.applyDeletion plan

theorem after {ts' : List Turn} (h : m.Prepared (ts ++ ts')) (he : e.compound = .whole) :
    (m.after e ts).Prepared ts' := by
  induction ts generalizing m with
  | nil => exact h
  | cons t ts ih => exact ih (h.serve he)

theorem left {ts' : List Turn} (h : m.Prepared (ts ++ ts')) : m.Prepared ts := by
  refine ⟨h.idle, h.wellFormed, fun t ht => h.writes t (List.mem_append_left _ ht), ?_⟩
  have hfresh := h.fresh
  rw [List.flatMap_append, ← List.append_assoc] at hfresh
  exact (List.nodup_append.1 hfresh).1

theorem reached (h : m.Prepared ts) (he : e.compound = .whole) : (m.after e ts).Prepared [] := by
  rw [← List.append_nil ts] at h
  exact h.after he

theorem ids_after (h : m.Prepared ts) (he : e.compound = .whole) :
    List.Sublist (m.after e ts).store.ids (m.store.ids ++ ts.flatMap (·.draws)) := by
  induction ts generalizing m with
  | nil =>
    simp only [List.flatMap_nil, List.append_nil]
    exact .refl _
  | cons t ts ih =>
    rw [List.flatMap_cons, ← List.append_assoc]
    exact (ih (h.serve he)).trans ((ids_serve he h.idle (h.writes t List.mem_cons_self)).append (.refl _))

/--
An interval that was deleted is never found again.
-/
theorem deleted_once {mid : List Turn} (h : m.Prepared ({ request := .delete id, stamp } :: mid))
    (he : e.compound = .whole) {outcome : DeletionOutcome}
    (hok : (Memory.serve e m stamp (.delete id)).1 = .ok outcome) (stamp' : Stamp) :
    (Memory.serve e (m.after e ({ request := .delete id, stamp } :: mid)) stamp' (.delete id)).1 =
      .error (.noInterval id) := by
  have hmid : (Memory.serve e m stamp (.delete id)).2.Prepared mid := h.serve he
  obtain ⟨hmem, hgone⟩ : id ∈ m.store.ids ∧ id ∉ (Memory.serve e m stamp (.delete id)).2.store.ids := by
    rw [serve_delete he h.idle] at hok ⊢
    cases hf : m.store.find? id with
    | none =>
      rw [hf] at hok
      cases hok
    | some row =>
      rw [hf] at hok
      exact deleteWhole_ok hok
  -- it could only come back with an identifier that is drawn, and those are new
  have hnever : id ∉ (m.after e ({ request := .delete id, stamp } :: mid)).store.ids := by
    intro hback
    have hback := (hmid.ids_after he).subset hback
    rw [List.mem_append] at hback
    cases hback with
    | inl hback => exact hgone hback
    | inr hback => exact (List.nodup_append.1 h.fresh).2.2 id hmem id hback rfl
  rw [Store.mem_ids, Bool.not_eq_true, Store.contains, Option.isSome_eq_false_iff, Option.isNone_iff_eq_none] at hnever
  rw [serve_delete_none he (h.reached he).idle hnever]

/--
A record either is refused or closes the last interval of its monitor and adds one there.
-/
theorem lineage_record (h : m.Prepared ts) (he : e.compound = .whole) (stamp : Stamp) (r : ChangeRequest) :
    (∃ err, Memory.serve e m stamp (.record r) = (.error err, m)) ∨
      ∃ M change m', Memory.serve e m stamp (.record r) = (.ok change, m') ∧
        change.closedPrior = (m.store.lineage M).getLast? ∧
        ∀ M', m'.store.lineage M' = m.store.lineage M' ++ if M = M' then [stamp.id] else [] := by
  have hserve : Memory.serve e m stamp (.record r) = _ := serve_record he h.idle r
  cases hmonitor : r.monitorId with
  | none =>
    left
    simp only [hmonitor] at hserve
    exact ⟨_, hserve⟩
  | some monitor =>
    cases hstatus : r.statusId with
    | none =>
      left
      simp only [hmonitor, hstatus] at hserve
      exact ⟨_, hserve⟩
    | some status =>
      right
      obtain ⟨created, store, happ, _⟩ := Store.append_ok m.store stamp
        (Engine.opening monitor status r (m.rootCause e r)) (by
          intro prior (heq : (Row.latest? monitor m.store.rows).map (·.id) = some prior)
          rw [Option.map_eq_some_iff] at heq
          obtain ⟨latest, hlatest, rfl⟩ := heq
          exact Store.contains_of_mem (Store.latest?_mem hlatest))
      refine ⟨monitor, _, _, serve_record_ok he h.idle hmonitor hstatus happ, ?_, fun M' => Store.lineage_append happ⟩
      rw [h.wellFormed.latest?_eq]
      exact List.getLast?_map.symm

theorem lineage_after (h : m.Prepared ts) (he : e.compound = .whole)
    (hrecords : ∀ t ∈ ts, ∃ r, t.request = .record r) (M : Uuid) :
    m.store.lineage M <+: (m.after e ts).store.lineage M := by
  induction ts generalizing m with
  | nil => exact List.prefix_rfl
  | cons t ts ih =>
    apply List.IsPrefix.trans _ (ih (h.serve he) fun t' ht' => hrecords t' (List.mem_cons_of_mem t ht'))
    obtain ⟨r, hr⟩ := hrecords t List.mem_cons_self
    rw [hr]
    rcases h.lineage_record he t.stamp r with ⟨err, heq⟩ | ⟨M', change, m', heq, _, hlineage⟩
    . simp only [heq]
      exact List.prefix_rfl
    . rw [heq, hlineage M]
      exact List.prefix_append ..

/--
Where nothing is deleted, an interval that a record has closed is not closed by a later one.
-/
theorem closed_once {r : ChangeRequest} {mid : List Turn} (h : m.Prepared ({ request := .record r, stamp } :: mid))
    (he : e.compound = .whole) (hrecords : ∀ t ∈ mid, ∃ r, t.request = .record r) {change : StatusChange}
    {p : Uuid} (hok : (Memory.serve e m stamp (.record r)).1 = .ok change) (hp : change.closedPrior = some p)
    {stamp' : Stamp} {r' : ChangeRequest} {change' : StatusChange}
    (hok' : (Memory.serve e (m.after e ({ request := .record r, stamp } :: mid)) stamp' (.record r')).1 =
      .ok change') : change'.closedPrior ≠ some p := by
  intro hp'
  have hmid : (Memory.serve e m stamp (.record r)).2.Prepared mid := h.serve he
  have hend := h.reached he
  rcases h.lineage_record he stamp r with ⟨err, heq⟩ | ⟨M, first, _, heq, hfirst, hadded⟩
  . simp [heq] at hok
  rcases hend.lineage_record he stamp' r' with ⟨err, heq'⟩ | ⟨M', second, _, heq', hsecond, _⟩
  . simp [heq'] at hok'
  rw [heq] at hok
  cases hok
  rw [heq'] at hok'
  cases hok'
  rw [hp] at hfirst
  rw [hp'] at hsecond
  -- the monitor of the first record has gone on with the interval that this record has opened
  obtain ⟨more, hmore⟩ := hmid.lineage_after he hrecords M
  have hline : (m.after e ({ request := .record r, stamp } :: mid)).store.lineage M =
      m.store.lineage M ++ ([stamp.id] ++ more) := by
    rw [← List.append_assoc]
    rw [heq, hadded M, if_pos rfl] at hmore
    show ((Memory.serve e m stamp (.record r)).2.after e mid).store.lineage M = _
    rw [heq]
    exact hmore.symm
  have hmem := List.mem_of_getLast? hfirst.symm
  by_cases hM : M' = M
  . have hne : [stamp.id] ++ more ≠ [] := by simp
    rw [hM, hline, List.getLast?_append, List.getLast?_eq_some_getLast hne, Option.some_or] at hsecond
    have hids := hend.wellFormed.lineage_nodup M
    rw [hline, List.nodup_append] at hids
    exact hids.2.2 p hmem p (Option.some.inj hsecond ▸ List.getLast_mem hne) rfl
  . -- one interval would be of two monitors
    obtain ⟨a, ha, hap⟩ := List.mem_map.1 (hline ▸ List.mem_append_left _ hmem)
    obtain ⟨b, hb, hbp⟩ := List.mem_map.1 (List.mem_of_getLast? hsecond.symm)
    exact hend.wellFormed.id_ne hM ha hb (hbp.trans hap.symm)

end Prepared

end Memory

end StatusTimeline
