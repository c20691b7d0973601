import StatusTimeline.Proofs.Store.History

/-!
This module contains the consistency of a store: it is well-formed, its intervals start at their creation, and
the history of each monitor is joined up to an open interval. Inserting after the last interval, cutting an
interval out between its neighbours and purging keep a store consistent.
-/

namespace StatusTimeline

theorem suffix_split_of_mem {α : Type} {is as cs : List α} {t : α} (hs : is <:+ as ++ t :: cs)
    (ht : t ∈ is) (hcs : t ∉ cs) : ∃ bs, bs <:+ as ∧ is = bs ++ t :: cs := by
  have htcs : t :: cs <:+ as ++ t :: cs := List.suffix_append ..
  rcases List.suffix_or_suffix_of_suffix htcs hs with hle | hle
  . obtain ⟨bs, rfl⟩ := hle
    obtain ⟨ps, hps⟩ := hs
    rw [← List.append_assoc] at hps
    exact ⟨bs, ⟨ps, List.append_cancel_right hps⟩, rfl⟩
  . rw [List.suffix_cons_iff] at hle
    cases hle with
    | inl hle => exact ⟨[], List.nil_suffix, hle⟩
    | inr hle => exact absurd (hle.subset ht) hcs

namespace Store

variable {s : Store} {monitor id : Uuid} {stamp : Stamp} {c : StoreCall} {now : Instant}

theorem lt_nextCreatedAt (s : Store) (now : Instant) {t : Instant} (h : s.lastCreatedAt = some t) :
    t < s.nextCreatedAt now := by
  unfold nextCreatedAt
  rw [h]
  split
  . next heq =>
    cases heq
    split
    . apply Instant.lt_nextMicro
    . simp only [Instant.lt_def, Instant.le_def] at *
      omega
  . next heq => cases heq

/--
The last creation time is kept by all calls but an append, which may give the next one.
-/
theorem lastCreatedAt_append (s : Store) (stamp : Stamp) (new : NewInterval) (close : Option Uuid) :
    (s.append stamp new close).2.lastCreatedAt = s.lastCreatedAt ∨
      (s.append stamp new close).2.lastCreatedAt = some (s.nextCreatedAt stamp.now) := by
  cases close with
  | none => exact .inr rfl
  | some prior =>
    unfold append
    dsimp only
    split
    . exact .inr rfl
    . exact .inl rfl

theorem lastCreatedAt_applyDeletion (s : Store) (plan : DeletionPlan) :
    (s.applyDeletion plan).2.lastCreatedAt = s.lastCreatedAt := by
  unfold applyDeletion
  split
  . rfl
  . split
    . rfl
    . split <;> rfl

theorem lastCreatedAt_of_not_draws (h : c.draws = false) :
    (s.answer stamp c).2.lastCreatedAt = s.lastCreatedAt := by
  cases c with
  | insert new => cases h
  | append new close => cases h
  | applyDeletion plan => exact s.lastCreatedAt_applyDeletion plan
  | updateEndsAt id endsAt =>
    unfold answer
    dsimp only
    split <;> rfl
  | delete id =>
    unfold answer
    dsimp only
    split <;> rfl
  | _ => rfl

theorem exhausts_of_not_draws (h : c.draws = false) : s.exhausts now c = false := by
  cases c <;> first | rfl | cases h

theorem exhausts_of_hasTime (h : s.hasTime now = true) : s.exhausts now c = false := by
  cases c with
  | insert new => simp [exhausts, h]
  | append new close => cases close <;> simp [exhausts, h]
  | _ => rfl

namespace WellFormed

theorem createdAt_lt (h : s.WellFormed) (now : Instant) {r : Row} (hr : r ∈ s.rows) :
    r.interval.createdAt < s.nextCreatedAt now := by
  obtain ⟨t, ht, hle⟩ := h.last r hr
  have := s.lt_nextCreatedAt now ht
  simp only [Instant.lt_def, Instant.le_def] at *
  omega

theorem insert (h : s.WellFormed) {stamp : Stamp} (new : NewInterval)
    (hf : s.contains stamp.id = false) : (s.insert stamp new).2.WellFormed := by
  rw [contains_eq_false] at hf
  constructor
  . simp only [Store.insert, List.pairwise_append, List.mem_singleton]
    exact ⟨h.ids, by simp, fun r hr _ hn => hn ▸ hf r hr⟩
  . simp only [Store.insert, List.pairwise_append, List.mem_singleton]
    exact ⟨h.creation, by simp, fun r hr _ hn => hn ▸ h.createdAt_lt stamp.now hr⟩
  . intro r hr
    simp only [Store.insert, List.mem_append, List.mem_singleton] at hr
    refine ⟨_, rfl, ?_⟩
    cases hr with
    | inl hr =>
      have := h.createdAt_lt stamp.now hr
      simp only [Instant.lt_def, Instant.le_def] at *
      omega
    | inr hr => simp [hr, NewInterval.materialise, Instant.le_def]

theorem setEnd (h : s.WellFormed) (id : Uuid) (e : Option Instant) : (s.setEnd id e).WellFormed := by
  constructor
  . simp only [Store.setEnd, List.pairwise_map]
    apply List.Pairwise.imp _ h.ids
    intro a b hab
    split <;> split <;> exact hab
  . simp only [Store.setEnd, List.pairwise_map]
    apply List.Pairwise.imp _ h.creation
    intro a b hab
    split <;> split <;> exact hab
  . intro r hr
    simp only [Store.setEnd, List.mem_map] at hr
    obtain ⟨r, hr, rfl⟩ := hr
    have := h.last r hr
    split <;> exact this

theorem filter (h : s.WellFormed) (p : Row → Bool) :
    WellFormed { s with rows := s.rows.filter p } := by
  constructor
  . exact List.Pairwise.sublist List.filter_sublist h.ids
  . exact List.Pairwise.sublist List.filter_sublist h.creation
  . intro r hr
    exact h.last r (List.mem_filter.1 hr).1

theorem append (h : s.WellFormed) {stamp : Stamp} (new : NewInterval) (close : Option Uuid)
    (hf : s.contains stamp.id = false) : (s.append stamp new close).2.WellFormed := by
  cases close with
  | none => exact h.insert new hf
  | some prior =>
    simp only [Store.append]
    split
    . exact (h.insert new hf).setEnd _ _
    . exact h

theorem applyDeletion (h : s.WellFormed) (plan : DeletionPlan) : (s.applyDeletion plan).2.WellFormed := by
  unfold Store.applyDeletion
  split
  . exact h
  . split
    . exact h.filter _
    . split
      . exact (h.setEnd _ _).filter _
      . exact h

theorem of_applyDeletion (h : s.WellFormed) {plan : DeletionPlan} {s' : Store}
    (happ : s.applyDeletion plan = (.ok (), s')) : s'.WellFormed := by
  have := h.applyDeletion plan
  rwa [happ] at this

theorem answer (h : s.WellFormed) {stamp : Stamp} {c : StoreCall}
    (hf : c.draws = true → s.contains stamp.id = false) : (s.answer stamp c).2.WellFormed := by
  cases c with
  | insert new => exact h.insert new (hf rfl)
  | append new close => exact h.append new close (hf rfl)
  | applyDeletion plan => exact h.applyDeletion plan
  | purge cutoff => exact h.filter _
  | updateEndsAt id e =>
    simp only [Store.answer]
    split
    . exact h.setEnd id e
    . exact h
  | delete id =>
    simp only [Store.answer]
    split
    . exact h.filter _
    . exact h
  | _ => exact h

end WellFormed

namespace StartsAtCreation

theorem insert (h : s.StartsAtCreation) (stamp : Stamp) {new : NewInterval} (hn : new.startsAt = none) :
    (s.insert stamp new).2.StartsAtCreation := by
  intro r hr
  simp only [Store.insert, List.mem_append, List.mem_singleton] at hr
  cases hr with
  | inl hr => exact h r hr
  | inr hr => simp [hr, NewInterval.materialise, hn]

theorem setEnd (h : s.StartsAtCreation) (id : Uuid) (e : Option Instant) :
    (s.setEnd id e).StartsAtCreation := by
  intro r hr
  simp only [Store.setEnd, List.mem_map] at hr
  obtain ⟨r, hr, rfl⟩ := hr
  have := h r hr
  split <;> exact this

theorem filter (h : s.StartsAtCreation) (p : Row → Bool) :
    StartsAtCreation { s with rows := s.rows.filter p } := by
  intro r hr
  exact h r (List.mem_filter.1 hr).1

end StartsAtCreation

structure Consistent (s : Store) : Prop where
  wellFormed : s.WellFormed
  starts : s.StartsAtCreation
  joined : ∀ monitor, Interval.Joined none (s.history monitor)

theorem consistent_empty : Consistent {} := by
  constructor
  . constructor <;> simp
  . simp [StartsAtCreation]
  . intro monitor
    exact trivial

namespace WellFormed

theorem id_ne (h : s.WellFormed) {M M' : Uuid} (hM : M' ≠ M) {i j : Interval} (hi : i ∈ s.history M)
    (hj : j ∈ s.history M') : j.id ≠ i.id := by
  intro he
  obtain ⟨a, ha, rfl, hma⟩ := mem_history.1 hi
  obtain ⟨b, hb, rfl, hmb⟩ := mem_history.1 hj
  rw [h.eq_of_id hb ha he] at hmb
  exact hM (hmb.symm.trans hma)

theorem history_setEnd_of_ne (h : s.WellFormed) {M M' : Uuid} (hM : M' ≠ M) {i : Interval}
    (hi : i ∈ s.history M) (e : Option Instant) : (s.setEnd i.id e).history M' = s.history M' := by
  rw [history_setEnd]
  exact Interval.map_endAt_of_ne fun j hj => h.id_ne hM hi hj

theorem history_erase_of_ne (h : s.WellFormed) {M M' : Uuid} (hM : M' ≠ M) {i : Interval}
    (hi : i ∈ s.history M) : (s.erase i.id).history M' = s.history M' := by
  rw [history_erase]
  exact Interval.filter_id_of_ne fun j hj => h.id_ne hM hi hj

theorem history_erase_split (h : s.WellFormed) {as cs : List Interval} {t : Interval}
    (hs : s.history monitor = as ++ t :: cs) : (s.erase t.id).history monitor = as ++ cs := by
  have hids := h.ids_history monitor
  rw [hs] at hids
  rw [history_erase, hs, Interval.filter_id_split hids]

theorem history_setEnd_split (h : s.WellFormed) {as cs : List Interval} {b : Interval}
    (hs : s.history monitor = as ++ b :: cs) (e : Option Instant) :
    (s.setEnd b.id e).history monitor = as ++ { b with endsAt := e } :: cs := by
  have hids := h.ids_history monitor
  rw [hs] at hids
  rw [history_setEnd, hs, Interval.map_endAt_split hids]

end WellFormed

namespace Consistent

variable {new : NewInterval} {stamp : Stamp}

theorem history_insert_of_ne (hM : monitor ≠ new.monitorId) :
    (s.insert stamp new).2.history monitor = s.history monitor := by
  rw [history_insert, if_neg (Ne.symm hM), List.append_nil]

/--
Where the history of each monitor is what it was, but for one whose history is joined.
-/
theorem joined_of_ne {s' : Store} (h : s.Consistent) (hj : Interval.Joined none (s'.history monitor))
    (hne : ∀ M, M ≠ monitor → s'.history M = s.history M) (M : Uuid) : Interval.Joined none (s'.history M) := by
  by_cases hM : M = monitor
  . rw [hM]
    exact hj
  . rw [hne M hM]
    exact h.joined M

theorem insert_first (h : s.Consistent) (hn : new.startsAt = none) (hf : s.contains stamp.id = false)
    (hnil : s.history new.monitorId = []) : (s.insert stamp new).2.Consistent := by
  refine ⟨h.wellFormed.insert new hf, h.starts.insert stamp hn, ?_⟩
  apply h.joined_of_ne _ fun M hM => history_insert_of_ne hM
  rw [history_insert, if_pos rfl, hnil]
  exact ⟨rfl, trivial⟩

/--
Insert an interval and close the one that was open where the new one starts.
-/
theorem insert_after (h : s.Consistent) (hn : new.startsAt = none) (hf : s.contains stamp.id = false)
    {as : List Interval} {i : Interval} (hlast : s.history new.monitorId = as ++ [i]) :
    let s' := (s.insert stamp new).2.setEnd i.id (some (s.insert stamp new).1.createdAt)
    s'.Consistent ∧ (s'.history new.monitorId).getLast? = some (s.insert stamp new).1 ∧
      ∀ M, M ≠ new.monitorId → s'.history M = s.history M := by
  let created := (s.insert stamp new).1
  have hw : (s.insert stamp new).2.WellFormed := h.wellFormed.insert new hf
  have hst : (s.insert stamp new).2.StartsAtCreation := h.starts.insert stamp hn
  have hsplit : (s.insert stamp new).2.history new.monitorId = as ++ i :: [created] := by
    rw [history_insert, if_pos rfl, hlast, List.append_assoc]
    rfl
  have hhist := hw.history_setEnd_split hsplit (some created.createdAt)
  have hother : ∀ M, M ≠ new.monitorId →
      ((s.insert stamp new).2.setEnd i.id (some created.createdAt)).history M = s.history M := by
    intro M hM
    have hi : i ∈ (s.insert stamp new).2.history new.monitorId := by simp [hsplit]
    rw [hw.history_setEnd_of_ne hM hi, history_insert_of_ne hM]
  refine ⟨⟨hw.setEnd _ _, hst.setEnd _ _, ?_⟩, by simp [created, hhist], hother⟩
  apply h.joined_of_ne _ hother
  -- the new interval starts when it is created, which is where the closed one ends
  have hstart : created.createdAt = created.startsAt := by
    simp [created, Store.insert, NewInterval.materialise, hn]
  have hj := h.joined new.monitorId
  rw [hlast] at hj
  rw [hhist, hstart, List.append_cons]
  exact hj.extend rfl

theorem append (h : s.Consistent) (hn : new.startsAt = none) (hf : s.contains stamp.id = false)
    {close : Option Uuid} (hc : close = (s.history new.monitorId).getLast?.map (·.id)) :
    ∃ created s', s.append stamp new close = (.ok created, s') ∧ s'.Consistent ∧
      created = new.materialise stamp.id (s.nextCreatedAt stamp.now) ∧
      (s'.history new.monitorId).getLast? = some created ∧
      ∀ M, M ≠ new.monitorId → s'.history M = s.history M := by
  rcases List.eq_nil_or_concat (s.history new.monitorId) with hnil | ⟨as, i, hlast⟩
  . rw [hnil] at hc
    subst hc
    refine ⟨(s.insert stamp new).1, (s.insert stamp new).2, rfl, h.insert_first hn hf hnil, rfl, ?_,
      fun M hM => history_insert_of_ne hM⟩
    rw [history_insert, if_pos rfl, hnil]
    rfl
  . rw [List.concat_eq_append] at hlast
    rw [hlast, List.getLast?_concat] at hc
    subst hc
    obtain ⟨hcons, hlast', hother⟩ := h.insert_after hn hf hlast
    refine ⟨(s.insert stamp new).1, _, ?_, hcons, rfl, hlast', hother⟩
    have hi : i ∈ s.history new.monitorId := by simp [hlast]
    simp only [Store.append, Option.map_some, contains_of_mem hi, if_true]

theorem purge (h : s.Consistent) (cutoff : Instant) : (s.purge cutoff).2.Consistent := by
  refine ⟨h.wellFormed.filter _, h.starts.filter _, ?_⟩
  intro M
  rw [history_purge]
  have hj := h.joined M
  exact hj.of_suffix (hj.filter_suffix (h.starts.ascending h.wellFormed M).startOrdered)

theorem purge_suffix (h : s.Consistent) (cutoff : Instant) (monitor : Uuid) :
    (s.purge cutoff).2.history monitor <:+ s.history monitor := by
  rw [history_purge]
  exact (h.joined monitor).filter_suffix (h.starts.ascending h.wellFormed monitor).startOrdered

theorem purge_ne_nil (h : s.Consistent) (cutoff : Instant) (hne : s.history monitor ≠ []) :
    (s.purge cutoff).2.history monitor ≠ [] := by
  rw [history_purge]
  exact (h.joined monitor).filter_ne_nil hne

/--
Cut an interval out whose neighbours were looked up when the store was `s₀`. Since then the oldest intervals of
the monitor may have gone: the plan is refused when the target or the repaired interval is among them.
-/
theorem applyDeletion_cases {s₀ : Store} (h₀ : s₀.Consistent) {as cs : List Interval}
    {t : Interval} (hs₀ : s₀.history monitor = as ++ t :: cs)
    (hs : s.history monitor <:+ s₀.history monitor)
    (hknown : ∀ i ∈ s₀.history monitor, s.contains i.id = true → i ∈ s.history monitor) :
    let plan := DeletionPlan.restitch t { before := as.getLast?, after := cs.head? }
    (∃ e, s.applyDeletion plan = (.error e, s) ∧ s.history monitor ≠ s₀.history monitor) ∨
    (plan.repair = none ∧ s.history monitor = t :: cs ∧
      s.applyDeletion plan = (.ok (), s.erase t.id)) ∨
    (∃ bs b, s.history monitor = bs ++ b :: t :: cs ∧
      s.applyDeletion plan = (.ok (), (s.setEnd b.id (Interval.beginOr none cs)).erase t.id)) := by
  have hids := h₀.wellFormed.ids_history monitor
  rw [hs₀, List.pairwise_append, List.pairwise_cons] at hids
  obtain ⟨_, ⟨htc, _⟩, hac⟩ := hids
  have hgone : ∀ i ∈ s₀.history monitor, i ∉ s.history monitor → s.contains i.id = false := by
    intro i hi hni
    rw [← Bool.not_eq_true]
    exact fun hc => hni (hknown i hi hc)
  by_cases ht : t ∈ s.history monitor
  . have hct := contains_of_mem ht
    rw [hs₀] at hs
    obtain ⟨bs, hbs, hH⟩ := suffix_split_of_mem hs ht fun hc => htc t hc rfl
    rcases List.eq_nil_or_concat as with hnil | ⟨as, b, hlast⟩
    . -- nothing was before the target, and nothing is now
      rw [hnil, List.suffix_nil] at hbs
      rw [hbs] at hH
      right; left
      refine ⟨by simp [DeletionPlan.restitch, hnil], hH, ?_⟩
      simp [applyDeletion, DeletionPlan.restitch, hnil, hct]
    . rw [List.concat_eq_append] at hlast
      rw [hlast, List.suffix_concat_iff] at hbs
      rcases hbs with hnil | ⟨bs, hb, _⟩
      . -- the interval before the target has gone
        left
        have hb₀ : b ∈ s₀.history monitor := by simp [hs₀, hlast]
        have hbH : b ∉ s.history monitor := by
          rw [hH, hnil]
          intro hbH
          exact hac b (by simp [hlast]) b hbH rfl
        have hcb : s.contains b.id = false := hgone b hb₀ hbH
        refine ⟨.noInterval b.id, ?_, fun heq => hbH (heq ▸ hb₀)⟩
        simp [applyDeletion, DeletionPlan.restitch, hlast, hct, hcb]
      . -- it is still there, and takes over the span of the target
        right; right
        rw [hb, List.append_assoc, List.singleton_append] at hH
        have hcb : s.contains b.id = true := contains_of_mem (by rw [hH]; simp)
        refine ⟨bs, b, hH, ?_⟩
        simp [applyDeletion, DeletionPlan.restitch, hlast, hct, hcb, Interval.beginOr_none]
  . -- the target itself has gone
    left
    have ht₀ : t ∈ s₀.history monitor := by simp [hs₀]
    refine ⟨.noInterval t.id, ?_, fun heq => ht (heq ▸ ht₀)⟩
    simp [applyDeletion, DeletionPlan.restitch, hgone t ht₀ ht]

theorem history_erase_first (h : s.Consistent) {cs : List Interval} {t : Interval}
    (hs : s.history monitor = t :: cs) : (s.erase t.id).history monitor = cs := by
  have hs : s.history monitor = [] ++ t :: cs := hs
  exact h.wellFormed.history_erase_split hs

theorem history_erase_repaired (h : s.Consistent) {bs cs : List Interval} {b t : Interval}
    (hs : s.history monitor = bs ++ b :: t :: cs) (e : Option Instant) :
    ((s.setEnd b.id e).erase t.id).history monitor = bs ++ { b with endsAt := e } :: cs := by
  have hs' := h.wellFormed.history_setEnd_split hs e
  rw [← List.singleton_append, ← List.append_assoc] at hs'
  rw [(h.wellFormed.setEnd b.id e).history_erase_split hs']
  simp

theorem erase_first (h : s.Consistent) {cs : List Interval} {t : Interval}
    (hs : s.history monitor = t :: cs) :
    (s.erase t.id).Consistent ∧ ∀ M, M ≠ monitor → (s.erase t.id).history M = s.history M := by
  have hother : ∀ M, M ≠ monitor → (s.erase t.id).history M = s.history M := by
    intro M hM
    exact h.wellFormed.history_erase_of_ne hM (i := t) (by simp [hs])
  refine ⟨⟨h.wellFormed.filter _, h.starts.filter _, ?_⟩, hother⟩
  apply h.joined_of_ne _ hother
  have hj := h.joined monitor
  rw [hs] at hj
  rw [h.history_erase_first hs]
  exact hj.2

theorem erase_repaired (h : s.Consistent) {bs cs : List Interval} {b t : Interval}
    (hs : s.history monitor = bs ++ b :: t :: cs) :
    ((s.setEnd b.id (Interval.beginOr none cs)).erase t.id).Consistent ∧
      ∀ M, M ≠ monitor → ((s.setEnd b.id (Interval.beginOr none cs)).erase t.id).history M = s.history M := by
  let s' := s.setEnd b.id (Interval.beginOr none cs)
  have hw : s'.WellFormed := h.wellFormed.setEnd ..
  have hst : s'.StartsAtCreation := h.starts.setEnd _ _
  have ht : t ∈ s'.history monitor := by
    rw [h.wellFormed.history_setEnd_split hs]
    simp
  have hother : ∀ M, M ≠ monitor → (s'.erase t.id).history M = s.history M := by
    intro M hM
    rw [hw.history_erase_of_ne hM ht]
    exact h.wellFormed.history_setEnd_of_ne hM (i := b) (by simp [hs]) _
  refine ⟨⟨hw.filter _, hst.filter _, ?_⟩, hother⟩
  apply h.joined_of_ne _ hother
  have hj := h.joined monitor
  rw [hs] at hj
  rw [h.history_erase_repaired hs]
  exact hj.cutOut

/--
A deletion by a fresh plan succeeds and leaves the monitor with intervals if it had others.
-/
theorem applyDeletion (h : s.Consistent) {as cs : List Interval} {t : Interval}
    (hs : s.history monitor = as ++ t :: cs) (hne : as ++ cs ≠ []) :
    ∃ s', s.applyDeletion (.restitch t { before := as.getLast?, after := cs.head? }) = (.ok (), s') ∧
      s'.Consistent ∧ s'.history monitor ≠ [] ∧
      ∀ M, M ≠ monitor → s'.history M = s.history M := by
  rcases h.applyDeletion_cases hs (List.suffix_refl _) (fun i hi _ => hi) with
    ⟨err, _, habs⟩ | ⟨_, hfirst, happ⟩ | ⟨bs, b, hsplit, happ⟩
  . exact absurd rfl habs
  . have has : as = [] := by
      rw [hs] at hfirst
      simpa using hfirst
    obtain ⟨hc, hother⟩ := h.erase_first hfirst
    refine ⟨_, happ, hc, ?_, hother⟩
    rw [h.history_erase_first hfirst]
    simpa [has] using hne
  . obtain ⟨hc, hother⟩ := h.erase_repaired hsplit
    refine ⟨_, happ, hc, ?_, hother⟩
    rw [h.history_erase_repaired hsplit]
    simp

end Consistent

theorem append_ok (s : Store) (stamp : Stamp) (new : NewInterval) {close : Option Uuid}
    (hclose : ∀ prior, close = some prior → s.contains prior = true) :
    ∃ created store, s.append stamp new close = (.ok created, store) ∧
      created.statusId = new.statusId := by
  cases close with
  | none => exact ⟨_, _, rfl, rfl⟩
  | some prior =>
    simp only [append, hclose prior rfl, if_true]
    exact ⟨_, _, rfl, rfl⟩

theorem applyDeletion_ok (plan : DeletionPlan) (htarget : s.contains plan.target = true)
    (hrepair : ∀ repair, plan.repair = some repair → s.contains repair.intervalId = true) :
    ∃ store, s.applyDeletion plan = (.ok (), store) := by
  unfold applyDeletion
  rw [if_neg (by simp [htarget])]
  split
  . exact ⟨_, rfl⟩
  . next repair heq =>
    rw [if_pos (hrepair repair heq)]
    exact ⟨_, rfl⟩

end Store

end StatusTimeline
