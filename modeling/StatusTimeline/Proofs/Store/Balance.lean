import StatusTimeline.Proofs.Store.Consistent

/-!
This module contains the count of a monitor's open intervals and what each operation of a store makes of it,
whatever the starts of the intervals are. Appending opens one interval and closes at most one. Deleting may
take an open interval away, and closes or opens the one before it.
-/

namespace StatusTimeline

namespace Neighbors

/--
Whether the interval before takes over a span that nothing follows, and so becomes open.
-/
def reopens (n : Neighbors) : Bool := n.before.isSome && n.after.isNone

/--
The number of open intervals changes when `t` is cut out from between its neighbours: the interval before does
not become open exactly when it or `t` was.
-/
def Misjoins (n : Neighbors) (t : Interval) : Prop :=
  n.reopens ≠ (t.isOpen || n.before.any (·.isOpen))

instance (n : Neighbors) (t : Interval) : Decidable (n.Misjoins t) := by
  unfold Misjoins
  infer_instance

/--
When one interval was open, one is open after `t` is cut out exactly when its neighbours were joined.
-/
theorem one_iff_not_misjoins {n : Neighbors} {t : Interval} {count : Nat}
    (hcount : count + t.isOpen.toNat + (n.before.any (·.isOpen)).toNat = 1 + n.reopens.toNat)
    (hbound : t.isOpen.toNat + (n.before.any (·.isOpen)).toNat ≤ 1) : count = 1 ↔ ¬ n.Misjoins t := by
  unfold Misjoins
  generalize n.before.any (·.isOpen) = before at *
  generalize n.reopens = reopens at *
  generalize t.isOpen = target at *
  cases reopens <;> cases target <;> cases before <;> simp at hcount hbound ⊢ <;> omega

end Neighbors

namespace Interval

variable {is : List Interval} {i : Interval}

theorem isOpen_le_countP (hi : i ∈ is) : i.isOpen.toNat ≤ is.countP (·.isOpen) := by
  cases hopen : i.isOpen with
  | false => simp
  | true => exact List.countP_pos_iff.2 ⟨i, hi, hopen⟩

theorem countP_endAt (h : is.Pairwise fun i j => i.id ≠ j.id) (hi : i ∈ is) (e : Option Instant) :
    (is.map (endAt i.id e)).countP (·.isOpen) + i.isOpen.toNat = is.countP (·.isOpen) + e.isNone.toNat := by
  obtain ⟨as, cs, rfl⟩ := List.append_of_mem hi
  have hopen : isOpen { i with endsAt := e } = e.isNone := rfl
  rw [map_endAt_split h, List.countP_append, List.countP_append, List.countP_cons, List.countP_cons, hopen]
  cases e.isNone <;> cases i.isOpen <;> simp <;> omega

/--
What closing an interval that may be there makes of a list of intervals.
-/
def closing (close : Option Uuid) (e : Instant) (is : List Interval) : List Interval :=
  match close with
  | some id => is.map (endAt id (some e))
  | none => is

theorem closing_of_ne {close : Option Uuid} {e : Instant} (h : ∀ i ∈ is, close ≠ some i.id) :
    closing close e is = is := by
  cases close with
  | none => rfl
  | some id =>
    apply map_endAt_of_ne
    intro j hj heq
    exact h j hj (congrArg some heq.symm)

theorem closing_concat {close : Option Uuid} {created : Interval} (h : close ≠ some created.id) (e : Instant) :
    closing close e (is ++ [created]) = closing close e is ++ [created] := by
  cases close with
  | none => rfl
  | some id =>
    have hne : created.id ≠ id := by
      intro heq
      exact h (congrArg some heq.symm)
    simp [closing, endAt, hne]

theorem countP_closing {created : Interval} {prior : Option Interval} (e : Instant)
    (h : (is ++ [created]).Pairwise fun i j => i.id ≠ j.id) (ho : created.isOpen = true)
    (hprior : ∀ i, prior = some i → i ∈ is) :
    (closing (prior.map (·.id)) e (is ++ [created])).countP (·.isOpen) + (prior.any (·.isOpen)).toNat =
      is.countP (·.isOpen) + 1 := by
  have hadded : (is ++ [created]).countP (·.isOpen) = is.countP (·.isOpen) + 1 := by
    simp [List.countP_append, ho]
  cases prior with
  | none => exact hadded
  | some i =>
    rw [← hadded]
    exact countP_endAt h (List.mem_append_left _ (hprior i rfl)) (some e)

/--
Where the last interval is open, closing one of an earlier time and opening another leaves at most one open exactly when
there was at most one and none had followed the one to close.
-/
theorem count_le_one_iff {olds news : List Interval} {count : Nat}
    (hlast : ∀ i, (olds ++ news).getLast? = some i → i.isOpen = true)
    (hcount : count + (olds.getLast?.any (·.isOpen)).toNat = (olds ++ news).countP (·.isOpen) + 1) :
    count ≤ 1 ↔ (olds ++ news).countP (·.isOpen) ≤ 1 ∧ news = [] := by
  rcases List.eq_nil_or_concat news with rfl | ⟨before, last, rfl⟩
  . rw [List.append_nil] at *
    cases hold : olds.getLast? with
    | none =>
      rw [List.getLast?_eq_none_iff] at hold
      subst hold
      simp_all
    | some i =>
      simp only [hold, Option.any_some, hlast i hold, Bool.toNat_true] at hcount
      simp only [and_true]
      omega
  . have hopen : last.isOpen = true := hlast last (by simp)
    have hmem : last ∈ before.concat last := by simp
    have hnews := isOpen_le_countP hmem
    have holds : (olds.getLast?.any (·.isOpen)).toNat ≤ olds.countP (·.isOpen) := by
      cases hold : olds.getLast? with
      | none => simp
      | some i => exact isOpen_le_countP (List.mem_of_getLast? hold)
    rw [List.countP_append] at *
    rw [hopen, Bool.toNat_true] at hnews
    apply iff_of_false
    . omega
    . simp

end Interval

namespace Store

def openCount (s : Store) (monitor : Uuid) : Nat := (s.history monitor).countP (·.isOpen)

variable {s : Store} {monitor : Uuid} {stamp : Stamp} {new : NewInterval}

theorem openCount_congr {s' : Store} (h : s'.history monitor = s.history monitor) :
    s'.openCount monitor = s.openCount monitor := by
  rw [openCount, h, openCount]

theorem openCount_purge (cutoff : Instant) :
    (s.purge cutoff).2.openCount monitor = s.openCount monitor := by
  unfold openCount
  rw [history_purge, List.countP_filter]
  apply List.countP_congr
  intro i _
  cases h : i.endsAt <;> simp [Interval.isOpen, Interval.endedBefore, h]

theorem before_lt {at_ : Instant} {b : Interval}
    (h : (Row.neighbors monitor at_ s.rows).before = some b) : b.startsAt < at_ := by
  unfold Row.neighbors at h
  rw [Option.map_eq_some_iff] at h
  obtain ⟨r, hr, rfl⟩ := h
  simpa using (List.mem_filter.1 (greatest?_mem hr)).2

section Append

variable {s' : Store} {created : Interval} {close : Option Uuid}

theorem append_created (h : s.append stamp new close = (.ok created, s')) :
    created = new.materialise stamp.id (s.nextCreatedAt stamp.now) := by
  cases close with
  | none =>
    cases h
    rfl
  | some prior =>
    simp only [append] at h
    split at h
    . cases h
      rfl
    . cases h

theorem history_append (h : s.append stamp new close = (.ok created, s')) (M : Uuid) :
    s'.history M = Interval.closing close created.createdAt
      (s.history M ++ if new.monitorId = M then [created] else []) := by
  cases close with
  | none =>
    cases h
    exact history_insert stamp new
  | some prior =>
    simp only [append] at h
    split at h
    . cases h
      rw [history_setEnd, history_insert]
      rfl
    . cases h

/--
An append closes the interval that it is told to, if that one is open, and opens one.
-/
theorem openCount_append {prior : Option Interval}
    (h : s.append stamp new (prior.map (·.id)) = (.ok created, s'))
    (hids : (s.history new.monitorId ++ [created]).Pairwise fun i j => i.id ≠ j.id)
    (hprior : ∀ i, prior = some i → i ∈ s.history new.monitorId) :
    s'.openCount new.monitorId + (prior.any (·.isOpen)).toNat = s.openCount new.monitorId + 1 := by
  unfold openCount
  rw [history_append h, if_pos rfl]
  apply Interval.countP_closing _ hids _ hprior
  rw [append_created h]
  rfl

theorem history_append_of_ne (h : s.append stamp new close = (.ok created, s')) {M : Uuid}
    (hM : M ≠ new.monitorId) (hclose : ∀ i ∈ s.history M, close ≠ some i.id) :
    s'.history M = s.history M := by
  rw [history_append h, if_neg (Ne.symm hM), List.append_nil]
  exact Interval.closing_of_ne hclose

end Append

namespace WellFormed

theorem openCount_setEnd (h : s.WellFormed) {b : Interval} (hb : b ∈ s.history monitor)
    (e : Option Instant) :
    (s.setEnd b.id e).openCount monitor + b.isOpen.toNat =
      s.openCount monitor + e.isNone.toNat := by
  unfold openCount
  rw [history_setEnd]
  exact Interval.countP_endAt (h.ids_history monitor) hb e

theorem openCount_erase (h : s.WellFormed) {t : Interval} (ht : t ∈ s.history monitor) :
    (s.erase t.id).openCount monitor + t.isOpen.toNat = s.openCount monitor := by
  obtain ⟨as, cs, hs⟩ := List.append_of_mem ht
  unfold openCount
  rw [h.history_erase_split hs, hs, List.countP_append, List.countP_append, List.countP_cons]
  cases t.isOpen with
  | false => simp
  | true =>
    simp
    omega

theorem ids_created (h : s.WellFormed) (hf : s.contains stamp.id = false) {created : Interval} {close : Option Uuid}
    {s' : Store} (happ : s.append stamp new close = (.ok created, s')) :
    (s.history new.monitorId ++ [created]).Pairwise fun i j => i.id ≠ j.id := by
  have hins := (h.insert new hf).ids_history new.monitorId
  rw [history_insert, if_pos rfl] at hins
  rw [append_created happ]
  exact hins

/--
Append an interval and close the most recently created one, wherever the two start.
-/
theorem append_latest (h : s.WellFormed) (new : NewInterval) (hf : s.contains stamp.id = false) :
    ∃ created s',
      s.append stamp new ((Row.latest? new.monitorId s.rows).map (·.id)) = (.ok created, s') ∧
      s'.history new.monitorId ≠ [] ∧
      s'.openCount new.monitorId + ((Row.latest? new.monitorId s.rows).any (·.isOpen)).toNat =
        s.openCount new.monitorId + 1 ∧
      ∀ M, M ≠ new.monitorId → s'.history M = s.history M := by
  have hlatest : ∀ i, Row.latest? new.monitorId s.rows = some i → i ∈ s.history new.monitorId :=
    fun i => latest?_mem
  have hclose : ∀ prior, (Row.latest? new.monitorId s.rows).map (·.id) = some prior →
      s.contains prior = true := by
    intro prior hprior
    obtain ⟨i, hi, rfl⟩ := Option.map_eq_some_iff.1 hprior
    exact contains_of_mem (hlatest i hi)
  obtain ⟨created, s', happ, _⟩ := s.append_ok stamp new hclose
  refine ⟨created, s', happ, ?_, openCount_append happ (h.ids_created hf happ) hlatest, ?_⟩
  . rw [history_append happ, if_pos rfl]
    unfold Interval.closing
    split <;> simp
  . intro M hM
    apply history_append_of_ne happ hM
    intro j hj heq
    obtain ⟨i, hi, hid⟩ := Option.map_eq_some_iff.1 heq
    exact h.id_ne hM (hlatest i hi) hj hid.symm

theorem eq_of_mem_history (h : s.WellFormed) {i j : Interval} (hi : i ∈ s.history monitor)
    (hj : j ∈ s.history monitor) (he : i.id = j.id) : i = j := by
  obtain ⟨a, ha, rfl, _⟩ := mem_history.1 hi
  obtain ⟨b, hb, rfl, _⟩ := mem_history.1 hj
  rw [h.eq_of_id ha hb he]

theorem length_history_erase (h : s.WellFormed) {t : Interval} (ht : t ∈ s.history monitor) :
    ((s.erase t.id).history monitor).length + 1 = (s.history monitor).length := by
  obtain ⟨as, cs, hs⟩ := List.append_of_mem ht
  rw [h.history_erase_split hs, hs]
  simp
  omega

theorem before_id_ne (h : s.WellFormed) {t b : Interval} (ht : t ∈ s.history monitor)
    (hb : (Row.neighbors monitor t.startsAt s.rows).before = some b) : t.id ≠ b.id := by
  intro hid
  have hlt := before_lt hb
  rw [h.eq_of_mem_history ht (before_mem hb) hid, Instant.lt_def] at hlt
  omega

/--
Delete an interval by the plan for its neighbours, of which the one before may be closed or opened again.
-/
theorem applyDeletion_restitch (h : s.WellFormed) {t : Interval} (ht : t ∈ s.history monitor)
    {n : Neighbors} (hn : n = Row.neighbors monitor t.startsAt s.rows) :
    ∃ s', s.applyDeletion (.restitch t n) = (.ok (), s') ∧
      (s'.history monitor).length + 1 = (s.history monitor).length ∧
      s'.openCount monitor + t.isOpen.toNat + (n.before.any (·.isOpen)).toNat =
        s.openCount monitor + n.reopens.toNat ∧
      t.isOpen.toNat + (n.before.any (·.isOpen)).toNat ≤ s.openCount monitor ∧
      ∀ M, M ≠ monitor → s'.history M = s.history M := by
  have hct := contains_of_mem ht
  cases hb : n.before with
  | none =>
    refine ⟨s.erase t.id, ?_, h.length_history_erase ht, ?_, ?_, ?_⟩
    . simp [Store.applyDeletion, DeletionPlan.restitch, hb, hct]
    . simpa [Neighbors.reopens, hb] using h.openCount_erase ht
    . simpa [openCount] using Interval.isOpen_le_countP ht
    . intro M hM
      exact h.history_erase_of_ne hM ht
  | some b =>
    let e := n.after.map (·.startsAt)
    have hbm : b ∈ s.history monitor := before_mem (hn ▸ hb)
    have hbt : t.id ≠ b.id := h.before_id_ne ht (hn ▸ hb)
    have hw : (s.setEnd b.id e).WellFormed := h.setEnd _ _
    have ht' : t ∈ (s.setEnd b.id e).history monitor := by
      rw [history_setEnd, List.mem_map]
      exact ⟨t, ht, by simp [Interval.endAt, hbt]⟩
    refine ⟨(s.setEnd b.id e).erase t.id, ?_, ?_, ?_, ?_, ?_⟩
    . simp [Store.applyDeletion, DeletionPlan.restitch, hb, hct, contains_of_mem hbm, e]
    . rw [hw.length_history_erase ht', history_setEnd, List.length_map]
    . have hset := h.openCount_setEnd hbm e
      have herase := hw.openCount_erase ht'
      have hreopens : n.reopens = e.isNone := by simp [Neighbors.reopens, hb, e]
      rw [hreopens]
      simp only [Option.any_some]
      omega
    . -- the one before is still there when `t` has gone
      have hbm' : b ∈ (s.erase t.id).history monitor := by
        rw [history_erase, List.mem_filter]
        exact ⟨hbm, by simpa using hbt.symm⟩
      have hle : b.isOpen.toNat ≤ (s.erase t.id).openCount monitor := Interval.isOpen_le_countP hbm'
      have herase := h.openCount_erase ht
      simp only [Option.any_some]
      omega
    . intro M hM
      rw [hw.history_erase_of_ne hM ht', h.history_setEnd_of_ne hM hbm]

end WellFormed

end Store

end StatusTimeline
