import StatusTimeline.Change
import StatusTimeline.Proofs.Timeline.Joined

/-!
This module contains lists of intervals in the order of a timeline, by start and then by creation, in which several
intervals may start at once. It tells what is next to an instant in such a list, and when the list stays joined
while the plan for a deletion is applied to it.
-/

namespace StatusTimeline

namespace Interval

def Precedes (i j : Interval) : Prop :=
  i.startsAt < j.startsAt ∨ i.startsAt = j.startsAt ∧ i.createdAt < j.createdAt

def InOrder (is : List Interval) : Prop := is.Pairwise Precedes

instance (i j : Interval) : Decidable (Precedes i j) := by
  unfold Precedes
  infer_instance

instance (is : List Interval) : Decidable (InOrder is) := by
  unfold InOrder
  infer_instance

theorem Precedes.asymm {i j : Interval} (h : Precedes i j) : ¬ Precedes j i := by
  simp only [Precedes, Instant.lt_def, Instant.slot_inj] at *
  omega

theorem Precedes.le {i j : Interval} (h : Precedes i j) : i.startsAt ≤ j.startsAt := by
  simp only [Precedes, Instant.lt_def, Instant.le_def, Instant.slot_inj] at *
  omega

namespace InOrder

variable {is js : List Interval}

theorem eq_of_perm (hi : InOrder is) (hj : InOrder js) (hp : is.Perm js) : is = js := by
  apply List.Perm.eq_of_pairwise _ hi hj hp
  intro i j _ _ hij hji
  exact absurd hji hij.asymm

theorem filter (h : InOrder is) (p : Interval → Bool) : InOrder (is.filter p) :=
  List.Pairwise.sublist List.filter_sublist h

theorem map_endAt (h : InOrder is) (id : Uuid) (e : Option Instant) : InOrder (is.map (endAt id e)) := by
  unfold InOrder
  rw [List.pairwise_map]
  apply List.Pairwise.imp _ h
  intro i j hij
  unfold endAt
  split <;> split <;> exact hij

/--
Where a condition that holds of an interval holds of all before it, those that meet it come first.
-/
theorem split {p : Interval → Bool} (h : is.Pairwise fun i j => p j = true → p i = true) :
    ∃ as bs, is = as ++ bs ∧ (∀ a ∈ as, p a = true) ∧ ∀ b ∈ bs, p b = false := by
  induction is with
  | nil => exact ⟨[], [], rfl, by simp, by simp⟩
  | cons i is ih =>
    rw [List.pairwise_cons] at h
    cases hi : p i with
    | true =>
      obtain ⟨as, bs, rfl, has, hbs⟩ := ih h.2
      refine ⟨i :: as, bs, rfl, ?_, hbs⟩
      simpa [hi] using has
    | false =>
      refine ⟨[], i :: is, rfl, by simp, ?_⟩
      intro j hj
      rw [List.mem_cons] at hj
      cases hj with
      | inl hj => rw [hj]; exact hi
      | inr hj =>
        rw [← Bool.not_eq_true]
        intro hpj
        simp [h.1 j hj hpj] at hi

end InOrder

/--
What surrounds an interval in a timeline: intervals that start earlier, that start with it, and that start later.
-/
structure Around (t : Interval) (ps es fs qs : List Interval) : Prop where
  earlier : ∀ i ∈ ps, i.startsAt < t.startsAt
  tied : ∀ i ∈ es ++ t :: fs, i.startsAt = t.startsAt
  later : ∀ i ∈ qs, t.startsAt < i.startsAt

theorem InOrder.around {is : List Interval} (h : InOrder is) {t : Interval} (ht : t ∈ is) :
    ∃ ps es fs qs, is = ps ++ (es ++ t :: fs) ++ qs ∧ Around t ps es fs qs := by
  obtain ⟨as, cs, rfl⟩ := List.append_of_mem ht
  unfold InOrder at h
  rw [List.pairwise_append, List.pairwise_cons] at h
  obtain ⟨has, ⟨htc, hcs⟩, hac⟩ := h
  have hearlier : as.Pairwise fun i j =>
      decide (j.startsAt < t.startsAt) = true → decide (i.startsAt < t.startsAt) = true := by
    apply List.Pairwise.imp _ has
    intro i j hij
    have := hij.le
    simp only [decide_eq_true_eq, Instant.lt_def, Instant.le_def] at *
    omega
  have htied : cs.Pairwise fun i j =>
      decide (j.startsAt ≤ t.startsAt) = true → decide (i.startsAt ≤ t.startsAt) = true := by
    apply List.Pairwise.imp _ hcs
    intro i j hij
    have := hij.le
    simp only [decide_eq_true_eq, Instant.le_def] at *
    omega
  obtain ⟨ps, es, rfl, hps, hes⟩ := InOrder.split hearlier
  obtain ⟨fs, qs, rfl, hfs, hqs⟩ := InOrder.split htied
  refine ⟨ps, es, fs, qs, by simp, ?_, ?_, ?_⟩
  . simpa using hps
  . intro i hi
    rw [List.mem_append, List.mem_cons] at hi
    rcases hi with hi | rfl | hi
    . have hle := (hac i (by simp [hi]) t (by simp)).le
      have hnlt := hes i hi
      simp only [decide_eq_false_iff_not, Instant.lt_def, Instant.le_def, Instant.slot_inj] at *
      omega
    . rfl
    . have hle := (htc i (by simp [hi])).le
      have hge := hfs i hi
      simp only [decide_eq_true_eq, Instant.le_def, Instant.slot_inj] at *
      omega
  . intro i hi
    have := hqs i hi
    simp only [decide_eq_false_iff_not, Instant.lt_def, Instant.le_def] at *
    omega

namespace Around

variable {t : Interval} {ps es fs qs : List Interval}

theorem filter_before (h : Around t ps es fs qs) :
    (ps ++ (es ++ t :: fs) ++ qs).filter (·.startsAt < t.startsAt) = ps := by
  rw [List.filter_append, List.filter_append, List.filter_eq_self.2, List.filter_eq_nil_iff.2,
    List.filter_eq_nil_iff.2]
  . simp
  . intro i hi
    have := h.later i hi
    simp only [decide_eq_true_eq, Instant.lt_def] at *
    omega
  . intro i hi
    simp [h.tied i hi, Instant.lt_def]
  . simpa using h.earlier

theorem filter_after (h : Around t ps es fs qs) :
    (ps ++ (es ++ t :: fs) ++ qs).filter (t.startsAt < ·.startsAt) = qs := by
  rw [List.filter_append, List.filter_append, List.filter_eq_nil_iff.2, List.filter_eq_nil_iff.2,
    List.filter_eq_self.2]
  . rfl
  . simpa using h.later
  . intro i hi
    simp [h.tied i hi, Instant.lt_def]
  . intro i hi
    have := h.earlier i hi
    simp only [decide_eq_true_eq, Instant.lt_def] at *
    omega

theorem first_iff (h : Around t ps es fs qs) :
    ps = [] ↔ ∀ i ∈ ps ++ (es ++ t :: fs) ++ qs, t.startsAt ≤ i.startsAt := by
  constructor
  . intro hnil i hi
    rw [hnil, List.nil_append, List.mem_append] at hi
    cases hi with
    | inl hi => simp [h.tied i hi, Instant.le_def]
    | inr hi =>
      have := h.later i hi
      simp only [Instant.lt_def, Instant.le_def] at *
      omega
  . intro hle
    rw [List.eq_nil_iff_forall_not_mem]
    intro i hi
    have hlt := h.earlier i hi
    have hle := hle i (by simp [hi])
    simp only [Instant.lt_def, Instant.le_def] at *
    omega

theorem alone_iff (h : Around t ps es fs qs)
    (hids : (ps ++ (es ++ t :: fs) ++ qs).Pairwise fun i j => i.id ≠ j.id) :
    es = [] ∧ fs = [] ↔ ∀ i ∈ ps ++ (es ++ t :: fs) ++ qs, i.startsAt = t.startsAt → i = t := by
  constructor
  . intro ⟨hes, hfs⟩ i hi hstart
    subst hes hfs
    rw [List.append_assoc, List.mem_append] at hi
    cases hi with
    | inl hi =>
      have := h.earlier i hi
      simp only [Instant.lt_def, Instant.slot_inj] at *
      omega
    | inr hi =>
      rw [List.nil_append, List.singleton_append, List.mem_cons] at hi
      cases hi with
      | inl hi => exact hi
      | inr hi =>
        have := h.later i hi
        simp only [Instant.lt_def, Instant.slot_inj] at *
        omega
  . intro halone
    have htied : ∀ i ∈ es ++ t :: fs, i = t := by
      intro i hi
      exact halone i (List.mem_append_left _ (List.mem_append_right _ hi)) (h.tied i hi)
    -- another one that starts with `t` would have the identifier of `t`
    rw [List.pairwise_append, List.pairwise_append, List.pairwise_append, List.pairwise_cons] at hids
    obtain ⟨⟨_, ⟨_, ⟨htfs, _⟩, hest⟩, _⟩, _⟩ := hids
    constructor
    . rw [List.eq_nil_iff_forall_not_mem]
      intro i hi
      exact hest i hi t (by simp) (by rw [htied i (by simp [hi])])
    . rw [List.eq_nil_iff_forall_not_mem]
      intro i hi
      exact htfs i hi (by rw [htied i (by simp [hi])])

end Around

end Interval

namespace DeletionPlan

def applyTo (plan : DeletionPlan) (is : List Interval) : List Interval :=
  match plan.repair with
  | none => is.filter (·.id ≠ plan.target)
  | some repair =>
    (is.map (Interval.endAt repair.intervalId repair.endsAt)).filter (·.id ≠ plan.target)

theorem applyTo_perm (plan : DeletionPlan) {is js : List Interval} (h : is.Perm js) :
    (plan.applyTo is).Perm (plan.applyTo js) := by
  unfold applyTo
  cases plan.repair with
  | none => exact h.filter _
  | some repair => exact (h.map _).filter _

theorem applyTo_inOrder (plan : DeletionPlan) {is : List Interval} (h : Interval.InOrder is) :
    Interval.InOrder (plan.applyTo is) := by
  unfold applyTo
  cases plan.repair with
  | none => exact h.filter _
  | some repair => exact (h.map_endAt _ _).filter _

end DeletionPlan

namespace Interval

variable {t : Interval} {as cs ps es fs qs : List Interval}

theorem Joined.end_unique {e e' : Option Instant} {is : List Interval} (h : Joined e is) (h' : Joined e' is)
    (hne : is ≠ []) : e = e' := by
  obtain ⟨as, i, rfl⟩ := (List.eq_nil_or_concat is).resolve_left hne
  rw [List.concat_eq_append, joined_concat] at h h'
  exact h.2.symm.trans h'.2

namespace Around

theorem beginOr_later (h : Around t ps es fs qs) : beginOr none qs ≠ some t.startsAt := by
  cases qs with
  | nil => simp [beginOr]
  | cons q qs =>
    have := h.later q (by simp)
    simp only [beginOr, ne_eq, Option.some.injEq, Instant.slot_inj, Instant.lt_def] at *
    omega

theorem beginOr_tied (h : Around t ps es fs qs) (hne : ¬ (es = [] ∧ fs = [])) :
    beginOr none (es ++ (fs ++ qs)) = some t.startsAt := by
  cases es with
  | cons i es => simp [beginOr, h.tied i (by simp)]
  | nil =>
    cases fs with
    | cons i fs => simp [beginOr, h.tied i (by simp)]
    | nil => simp at hne

/--
The first interval goes, or one that starts with it: what starts with it stays joined if it has no length.
-/
theorem joined_first_iff (h : Around t [] es fs qs) (hj : Joined none (es ++ t :: (fs ++ qs))) :
    Joined none (es ++ (fs ++ qs)) ↔ es = [] ∧ fs = [] ∨ t.endsAt = some t.startsAt := by
  rw [joined_append] at hj ⊢
  obtain ⟨hes, hend, hrest⟩ := hj
  rw [← hend, and_iff_left hrest]
  constructor
  . intro hes'
    by_cases hnil : es = []
    . cases fs with
      | nil => exact .inl ⟨hnil, rfl⟩
      | cons f fs =>
        right
        simp [hend, beginOr, h.tied f (by simp)]
    . right
      exact hes'.end_unique hes hnil
  . intro hor
    rcases hor with ⟨hnil, _⟩ | hzero
    . rw [hnil]
      trivial
    . rw [hzero]
      exact hes

/--
The interval before takes over the span up to what starts later, so that nothing else may start with the one
that goes.
-/
theorem joined_repaired_iff {b : Interval} (h : Around t (as ++ [b]) es fs qs)
    (hj : Joined none (as ++ b :: (es ++ t :: (fs ++ qs)))) :
    Joined none (as ++ { b with endsAt := beginOr none qs } :: (es ++ (fs ++ qs))) ↔
      es = [] ∧ fs = [] := by
  rw [joined_append] at hj ⊢
  obtain ⟨has, _, hrest⟩ := hj
  constructor
  . intro ⟨_, hend, _⟩
    apply Decidable.byContradiction
    intro hne
    rw [h.beginOr_tied hne] at hend
    exact h.beginOr_later hend
  . intro ⟨hes, hfs⟩
    subst hes hfs
    exact ⟨has, rfl, (joined_append.1 hrest).2.2⟩

/--
Deleting an interval by the plan for its neighbours keeps a timeline joined exactly when no other interval starts
with it, or when it has no length and none starts earlier.
-/
theorem joined_restitch_iff (h : Around t ps es fs qs)
    (hids : (ps ++ (es ++ t :: fs) ++ qs).Pairwise fun i j => i.id ≠ j.id)
    (hj : Joined none (ps ++ (es ++ t :: fs) ++ qs)) :
    Joined none
        ((DeletionPlan.restitch t { before := ps.getLast?, after := qs.head? }).applyTo
          (ps ++ (es ++ t :: fs) ++ qs)) ↔
      es = [] ∧ fs = [] ∨ ps = [] ∧ t.endsAt = some t.startsAt := by
  rcases List.eq_nil_or_concat ps with rfl | ⟨as, b, rfl⟩
  . simp only [List.nil_append, List.append_assoc, List.cons_append] at hids hj ⊢
    have happly : (DeletionPlan.restitch t { before := none, after := qs.head? }).applyTo
        (es ++ t :: (fs ++ qs)) = es ++ (fs ++ qs) := filter_id_split hids
    rw [List.getLast?_nil, happly, h.joined_first_iff hj]
    simp
  . simp only [List.concat_eq_append, List.append_assoc, List.cons_append, List.nil_append] at h hids hj ⊢
    have hmap := map_endAt_split hids (beginOr none qs)
    have hids' : ((as ++ b :: (es ++ t :: (fs ++ qs))).map (endAt b.id (beginOr none qs))).Pairwise
        fun i j => i.id ≠ j.id := by
      rw [List.pairwise_map]
      simpa only [endAt_id] using hids
    rw [hmap, ← List.cons_append, ← List.append_assoc] at hids'
    have hfilter := filter_id_split hids'
    have happly : (DeletionPlan.restitch t { before := some b, after := qs.head? }).applyTo
        (as ++ b :: (es ++ t :: (fs ++ qs))) =
          as ++ { b with endsAt := beginOr none qs } :: (es ++ (fs ++ qs)) := by
      simp only [DeletionPlan.restitch, DeletionPlan.applyTo, Option.map_some, ← beginOr_none, hmap]
      simpa using hfilter
    rw [List.getLast?_concat, happly, h.joined_repaired_iff hj]
    simp

end Around

end Interval

end StatusTimeline
