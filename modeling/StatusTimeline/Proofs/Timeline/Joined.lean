import StatusTimeline.Audit

/-!
This module contains joined lists of intervals, in which each interval ends where the next one starts. The
audit has nothing to say against a timeline exactly when it is joined and its last interval is open, and such
a timeline stays joined when an interval is appended, when one is cut out and when its oldest ones go.
-/

namespace StatusTimeline

namespace Interval

/--
Where a list of intervals begins, or `e` if it is empty.
-/
def beginOr (e : Option Instant) : List Interval → Option Instant
  | [] => e
  | i :: _ => some i.startsAt

/--
Each interval ends where the next one starts, and the last one at `e`.
-/
def Joined (e : Option Instant) : List Interval → Prop
  | [] => True
  | i :: is => i.endsAt = beginOr e is ∧ Joined e is

def Ascending (is : List Interval) : Prop := is.Pairwise fun i j => i.startsAt < j.startsAt

/--
No interval starts before one that comes earlier. Several may start at once.
-/
def StartOrdered (is : List Interval) : Prop := is.Pairwise fun i j => i.startsAt ≤ j.startsAt

theorem Ascending.startOrdered {is : List Interval} (h : Ascending is) : StartOrdered is := by
  apply List.Pairwise.imp _ h
  intro i j hij
  exact Int.le_of_lt hij

def endedBefore (cutoff : Instant) (i : Interval) : Bool :=
  match i.endsAt with
  | some endsAt => endsAt < cutoff
  | none => false

def endAt (id : Uuid) (e : Option Instant) (i : Interval) : Interval :=
  if i.id = id then { i with endsAt := e } else i

theorem endedBefore_iff {cutoff : Instant} {i : Interval} :
    endedBefore cutoff i = true ↔ ∃ endsAt, i.endsAt = some endsAt ∧ endsAt < cutoff := by
  cases h : i.endsAt <;> simp [endedBefore, h]

theorem endAt_id (id : Uuid) (e : Option Instant) (i : Interval) : (endAt id e i).id = i.id := by
  unfold endAt
  split <;> rfl

theorem map_endAt_of_ne {id : Uuid} {e : Option Instant} {is : List Interval}
    (h : ∀ i ∈ is, i.id ≠ id) : is.map (endAt id e) = is := by
  rw [List.map_congr_left (g := fun i => i)]
  . simp
  . intro i hi
    simp [endAt, h i hi]

theorem filter_id_of_ne {id : Uuid} {is : List Interval} (h : ∀ i ∈ is, i.id ≠ id) :
    is.filter (·.id ≠ id) = is := by
  rw [List.filter_eq_self]
  intro i hi
  simpa using h i hi

theorem filter_id_split {as cs : List Interval} {t : Interval}
    (h : (as ++ t :: cs).Pairwise fun i j => i.id ≠ j.id) :
    (as ++ t :: cs).filter (·.id ≠ t.id) = as ++ cs := by
  rw [List.pairwise_append, List.pairwise_cons] at h
  obtain ⟨_, ⟨htc, _⟩, hac⟩ := h
  rw [List.filter_append, List.filter_cons_of_neg (by simp), filter_id_of_ne, filter_id_of_ne]
  . intro c hc
    exact (htc c hc).symm
  . intro a ha
    exact hac a ha t (by simp)

theorem map_endAt_split {as cs : List Interval} {t : Interval}
    (h : (as ++ t :: cs).Pairwise fun i j => i.id ≠ j.id) (e : Option Instant) :
    (as ++ t :: cs).map (endAt t.id e) = as ++ { t with endsAt := e } :: cs := by
  rw [List.pairwise_append, List.pairwise_cons] at h
  obtain ⟨_, ⟨htc, _⟩, hac⟩ := h
  rw [List.map_append, List.map_cons, map_endAt_of_ne, map_endAt_of_ne]
  . simp [endAt]
  . intro c hc
    exact (htc c hc).symm
  . intro a ha
    exact hac a ha t (by simp)

theorem beginOr_append (e : Option Instant) (as bs : List Interval) :
    beginOr e (as ++ bs) = beginOr (beginOr e bs) as := by
  cases as <;> rfl

theorem beginOr_none (is : List Interval) : beginOr none is = is.head?.map (·.startsAt) := by
  cases is <;> rfl

theorem joined_append {e : Option Instant} {as bs : List Interval} :
    Joined e (as ++ bs) ↔ Joined (beginOr e bs) as ∧ Joined e bs := by
  induction as with
  | nil => simp [Joined]
  | cons a as ih =>
    simp only [List.cons_append, Joined]
    rw [ih, beginOr_append, and_assoc]

theorem joined_concat {e : Option Instant} {as : List Interval} {i : Interval} :
    Joined e (as ++ [i]) ↔ Joined (some i.startsAt) as ∧ i.endsAt = e := by
  rw [joined_append]
  simp [Joined, beginOr]

theorem Joined.of_suffix {e : Option Instant} {as bs : List Interval} (h : Joined e bs)
    (hs : as <:+ bs) : Joined e as := by
  obtain ⟨cs, rfl⟩ := hs
  exact (joined_append.1 h).2

theorem Joined.isOpen_last {as : List Interval} {i : Interval} (h : Joined none (as ++ [i])) :
    i.isOpen = true := by
  rw [joined_concat] at h
  simp [isOpen, h.2]

theorem Joined.isOpen_eq_false {e : Instant} {is : List Interval} (h : Joined (some e) is) :
    ∀ i ∈ is, i.isOpen = false := by
  induction is with
  | nil => simp
  | cons i is ih =>
    intro j hj
    rw [List.mem_cons] at hj
    cases hj with
    | inl hj => cases is <;> simp [hj, isOpen, h.1, beginOr]
    | inr hj => exact ih h.2 j hj

theorem Joined.filter_isOpen {as : List Interval} {i : Interval} (h : Joined none (as ++ [i])) :
    (as ++ [i]).filter (·.isOpen) = [i] := by
  rw [List.filter_append, List.filter_eq_nil_iff.2, List.nil_append, List.filter_cons_of_pos h.isOpen_last]
  . rfl
  . intro a ha
    simp [(joined_concat.1 h).1.isOpen_eq_false a ha]

theorem Joined.extend {as : List Interval} {i n : Interval} (h : Joined none (as ++ [i]))
    (hn : n.endsAt = none) :
    Joined none (as ++ [{ i with endsAt := some n.startsAt }] ++ [n]) := by
  rw [joined_concat] at h
  rw [joined_concat, joined_concat]
  exact ⟨⟨h.1, rfl⟩, hn⟩

/--
Cut an interval out and let the one before it take over its span.
-/
theorem Joined.cutOut {as cs : List Interval} {b t : Interval}
    (h : Joined none (as ++ b :: t :: cs)) :
    Joined none (as ++ { b with endsAt := beginOr none cs } :: cs) := by
  rw [joined_append] at h ⊢
  exact ⟨h.1, rfl, h.2.2.2⟩

/--
Where an interval has not ended before an instant, those that follow have not either.
-/
theorem Joined.not_endedBefore {c : Instant} {i : Interval} {is : List Interval}
    (h : Joined none (i :: is)) (ho : StartOrdered (i :: is)) (hi : endedBefore c i = false) :
    ∀ j ∈ is, endedBefore c j = false := by
  induction is generalizing i with
  | nil => simp
  | cons j is ih =>
    -- the one that follows starts where this one ends, and ends no earlier
    have hj : endedBefore c j = false := by
      have hij : i.endsAt = some j.startsAt := h.1
      have hjk : j.endsAt = beginOr none is := h.2.1
      cases is with
      | nil => simp [endedBefore, hjk, beginOr]
      | cons k is =>
        have hle : j.startsAt ≤ k.startsAt := by
          have := (List.pairwise_cons.1 (List.pairwise_cons.1 ho).2).1
          exact this k (by simp)
        simp only [endedBefore, hij, hjk, beginOr, decide_eq_false_iff_not, Instant.lt_def, Instant.le_def] at *
        omega
    intro k hk
    rw [List.mem_cons] at hk
    cases hk with
    | inl hk => rw [hk]; exact hj
    | inr hk => exact ih h.2 (List.pairwise_cons.1 ho).2 hj k hk

/--
The intervals of a joined timeline that ended before an instant are its oldest ones.
-/
theorem Joined.filter_suffix {c : Instant} {is : List Interval} (h : Joined none is)
    (ho : StartOrdered is) : is.filter (fun i => !endedBefore c i) <:+ is := by
  induction is with
  | nil => simp
  | cons i is ih =>
    cases hi : endedBefore c i with
    | true =>
      -- the oldest one goes, and those that stay are found in the rest
      rw [List.filter_cons_of_neg (by simp [hi])]
      exact (ih h.2 (List.pairwise_cons.1 ho).2).trans (List.suffix_cons i is)
    | false =>
      have hall : ∀ j ∈ i :: is, (!endedBefore c j) = true := by
        intro j hj
        rw [List.mem_cons] at hj
        cases hj with
        | inl hj => simp [hj, hi]
        | inr hj => simp [h.not_endedBefore ho hi j hj]
      simp only [List.filter_eq_self.2 hall]
      exact List.suffix_refl _

theorem Joined.filter_ne_nil {c : Instant} {is : List Interval} (h : Joined none is)
    (hne : is ≠ []) : is.filter (fun i => !endedBefore c i) ≠ [] := by
  obtain ⟨as, i, rfl⟩ := List.eq_nil_or_concat is |>.resolve_left hne
  rw [List.concat_eq_append] at h ⊢
  have he := (joined_concat.1 h).2
  simp [endedBefore, he]

end Interval

namespace Audit

theorem pairViolations_eq_nil {i j : Interval} :
    pairViolations i j = [] ↔ i.endsAt = some j.startsAt := by
  unfold pairViolations
  cases i.endsAt with
  | none => simp
  | some e =>
    simp only [Option.some.injEq, Instant.slot_inj]
    split
    . next h =>
      simp only [Instant.lt_def] at h
      simp
      omega
    . split
      . next h =>
        simp only [Instant.lt_def] at h
        simp
        omega
      . simp_all only [Instant.lt_def, true_iff]
        omega

theorem chainViolations_cons_cons {i j : Interval} {is : List Interval} :
    chainViolations (i :: j :: is) = [] ↔
      i.endsAt = some j.startsAt ∧ chainViolations (j :: is) = [] := by
  rw [chainViolations, List.append_eq_nil_iff, pairViolations_eq_nil]

theorem openViolations_cons_cons {i j : Interval} {is : List Interval}
    (h : i.endsAt = some j.startsAt) :
    openViolations (i :: j :: is) = openViolations (j :: is) := by
  have : openIds (i :: j :: is) = openIds (j :: is) := by
    simp [openIds, Interval.isOpen, h]
  simp [openViolations, this]

/--
Nothing is wrong with a timeline exactly when it is joined up to an open interval.
-/
theorem violations_eq_nil_iff (is : List Interval) :
    openViolations is ++ chainViolations is = [] ↔ Interval.Joined none is := by
  rw [List.append_eq_nil_iff]
  induction is with
  | nil => simp [openViolations, openIds, chainViolations, Interval.Joined]
  | cons i is ih =>
    cases is with
    | nil =>
      simp only [chainViolations, and_true, Interval.Joined, Interval.beginOr]
      cases h : i.endsAt <;> simp [openViolations, openIds, Interval.isOpen, h]
    | cons j is =>
      rw [chainViolations_cons_cons, Interval.Joined, ← ih]
      constructor
      . intro ⟨ho, he, hc⟩
        rw [openViolations_cons_cons he] at ho
        exact ⟨he, ho, hc⟩
      . intro ⟨he, ho, hc⟩
        rw [openViolations_cons_cons he]
        exact ⟨ho, he, hc⟩

end Audit

namespace Interval

variable {i j : Interval} {is : List Interval}

theorem timelineLe_iff :
    timelineLe i j = true ↔ i.startsAt < j.startsAt ∨ i.startsAt = j.startsAt ∧ i.createdAt ≤ j.createdAt := by
  simp only [timelineLe, timelineCompare, Instant.lt_def, Instant.le_def, Instant.slot_inj]
  grind

theorem timelineLe_trans (i j k : Interval) (hij : timelineLe i j = true) (hjk : timelineLe j k = true) :
    timelineLe i k = true := by
  simp only [timelineLe_iff, Instant.lt_def, Instant.le_def, Instant.slot_inj] at *
  omega

theorem timelineLe_total (i j : Interval) : (timelineLe i j || timelineLe j i) = true := by
  simp only [timelineLe_iff, Bool.or_eq_true, Instant.lt_def, Instant.le_def, Instant.slot_inj]
  omega

theorem sorted_perm (is : List Interval) : (sorted is).Perm is := List.mergeSort_perm ..

theorem startOrdered_of_timelineLe (h : is.Pairwise fun i j => timelineLe i j = true) : StartOrdered is := by
  apply List.Pairwise.imp _ h
  intro i j hij
  simp only [timelineLe_iff, Instant.lt_def, Instant.le_def, Instant.slot_inj] at *
  omega

theorem sorted_startOrdered (is : List Interval) : StartOrdered (sorted is) :=
  startOrdered_of_timelineLe (List.pairwise_mergeSort timelineLe_trans timelineLe_total is)

theorem audit_violations_iff : (audit is).violations = [] ↔ Joined none (sorted is) :=
  Audit.violations_eq_nil_iff (sorted is)

theorem Ascending.sorted_eq (h : Ascending is) : sorted is = is := by
  apply List.mergeSort_of_pairwise
  apply List.Pairwise.imp _ h
  intro i j hij
  exact timelineLe_iff.2 (.inl hij)

theorem Ascending.audit_violations_iff (h : Ascending is) : (audit is).violations = [] ↔ Joined none is := by
  rw [Interval.audit_violations_iff, h.sorted_eq]

end Interval

end StatusTimeline
