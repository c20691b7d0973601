import StatusTimeline.Proofs.Timeline.Joined

/-!
This module contains the coverage of instants by intervals. Where the audit has nothing to say against intervals, every
instant from the first start on lies in exactly one of them. Where closed intervals end after they start, that is
also enough for an audit without violations, and only the instants at which an interval starts or ends matter for it.
-/

namespace StatusTimeline

namespace Interval

/--
Whether the interval lasts at an instant. Its end is no longer part of it.
-/
def covers (i : Interval) (t : Instant) : Bool := decide (i.startsAt ≤ t) && i.endsAt.all (t < ·)

/--
How many of the intervals last at an instant.
-/
def coverage (is : List Interval) (t : Instant) : Nat := is.countP (·.covers t)

/--
The interval is open or ends after its start.
-/
def HasLength (i : Interval) : Prop := ∀ endsAt ∈ i.endsAt, i.startsAt < endsAt

instance (i : Interval) : Decidable i.HasLength := by
  unfold HasLength
  infer_instance

/--
The instants at which one of the intervals starts or ends.
-/
def bounds (is : List Interval) : List Instant := is.flatMap fun i => i.startsAt :: i.endsAt.toList

variable {i j : Interval} {is js : List Interval} {t e : Instant}

theorem covers_of_closed (h : i.endsAt = some e) : i.covers t = true ↔ i.startsAt ≤ t ∧ t < e := by
  simp [covers, h]

theorem covers_of_open (h : i.endsAt = none) : i.covers t = true ↔ i.startsAt ≤ t := by
  simp [covers, h]

theorem startsAt_le_of_covers (h : i.covers t = true) : i.startsAt ≤ t := by
  unfold covers at h
  simp only [Bool.and_eq_true, decide_eq_true_eq] at h
  exact h.1

theorem HasLength.covers_start (h : i.HasLength) : i.covers i.startsAt = true := by
  cases hend : i.endsAt with
  | none => exact (covers_of_open hend).2 (Int.le_refl _)
  | some e => exact (covers_of_closed hend).2 ⟨Int.le_refl _, h e hend⟩

theorem coverage_nil (t : Instant) : coverage [] t = 0 := rfl

theorem coverage_cons : coverage (i :: is) t = coverage is t + if i.covers t = true then 1 else 0 :=
  List.countP_cons

theorem coverage_pos_iff : 0 < coverage is t ↔ ∃ i ∈ is, i.covers t = true :=
  List.countP_pos_iff

theorem coverage_perm (h : is.Perm js) (t : Instant) : coverage is t = coverage js t :=
  h.countP_eq _

theorem StartOrdered.head_le (h : StartOrdered (i :: is)) (hj : j ∈ i :: is) : i.startsAt ≤ j.startsAt := by
  rw [List.mem_cons] at hj
  cases hj with
  | inl hj => rw [hj]; exact Int.le_refl _
  | inr hj => exact (List.pairwise_cons.1 h).1 j hj

/--
In a joined timeline the intervals take over from one another, so that from the first start on one of them lasts.
-/
theorem Joined.coverage_eq (h : Joined none (i :: is)) (ho : StartOrdered (i :: is)) (t : Instant) :
    coverage (i :: is) t = if i.startsAt ≤ t then 1 else 0 := by
  induction is generalizing i with
  | nil => simp only [coverage_cons, coverage_nil, covers_of_open h.1, Nat.zero_add]
  | cons j is ih =>
    have hij : i.startsAt ≤ j.startsAt := ho.head_le (by simp)
    simp only [coverage_cons (i := i), ih h.2 (List.pairwise_cons.1 ho).2, covers_of_closed h.1]
    simp only [Instant.lt_def, Instant.le_def] at *
    split <;> split <;> split <;> omega

section Followed

variable (ho : StartOrdered (i :: j :: is)) (hl : ∀ k ∈ i :: j :: is, k.HasLength)
  (hc : ∀ t ∈ bounds (i :: j :: is), i.startsAt ≤ t → coverage (i :: j :: is) t = 1)

include ho hl hc

/--
An interval that is followed by another one has ended where that one starts, which would be covered twice otherwise.
-/
theorem ends_by_next : ∃ e, i.endsAt = some e ∧ e ≤ j.startsAt := by
  have hij : i.startsAt ≤ j.startsAt := ho.head_le (by simp)
  have hone := hc j.startsAt (by simp [bounds]) hij
  have hrest : 0 < coverage (j :: is) j.startsAt :=
    coverage_pos_iff.2 ⟨j, List.mem_cons_self, (hl j (by simp)).covers_start⟩
  have hnot : ¬ i.covers j.startsAt = true := by
    intro hi
    rw [coverage_cons, if_pos hi] at hone
    omega
  cases hend : i.endsAt with
  | none => exact absurd ((covers_of_open hend).2 hij) hnot
  | some e =>
    refine ⟨e, rfl, ?_⟩
    rw [covers_of_closed hend] at hnot
    simp only [Instant.lt_def, Instant.le_def] at *
    omega

/--
It does not end before that either: its end is covered, and by an interval that starts no earlier than the next one.
-/
theorem next_by_end (hend : i.endsAt = some e) : j.startsAt ≤ e := by
  have hlen : i.startsAt < e := hl i List.mem_cons_self e hend
  have hone := hc e (by simp [bounds, hend]) (Int.le_of_lt hlen)
  have hnot : ¬ i.covers e = true := by
    rw [covers_of_closed hend, Instant.lt_def]
    omega
  rw [coverage_cons, if_neg hnot] at hone
  obtain ⟨k, hk, hcov⟩ := coverage_pos_iff.1 (Nat.lt_of_lt_of_eq Nat.zero_lt_one hone.symm)
  exact Int.le_trans (StartOrdered.head_le (List.pairwise_cons.1 ho).2 hk) (startsAt_le_of_covers hcov)

theorem endsAt_eq_next : i.endsAt = some j.startsAt := by
  obtain ⟨e, hend, hle⟩ := ends_by_next ho hl hc
  have hge := next_by_end ho hl hc hend
  rw [hend, Instant.ext_slot (Int.le_antisymm hle hge)]

end Followed

theorem joined_of_coverage (ho : StartOrdered (i :: is)) (hl : ∀ k ∈ i :: is, k.HasLength)
    (hc : ∀ t ∈ bounds (i :: is), i.startsAt ≤ t → coverage (i :: is) t = 1) : Joined none (i :: is) := by
  induction is generalizing i with
  | nil =>
    refine ⟨?_, trivial⟩
    cases hend : i.endsAt with
    | none => rfl
    | some e =>
      -- nothing would cover the end of the only interval
      have hlen : i.startsAt < e := hl i List.mem_cons_self e hend
      have hone := hc e (by simp [bounds, hend]) (Int.le_of_lt hlen)
      simp [coverage, covers, hend, Instant.lt_def] at hone
  | cons j is ih =>
    have hend := endsAt_eq_next ho hl hc
    refine ⟨hend, ih (List.pairwise_cons.1 ho).2 (fun k hk => hl k (List.mem_cons_of_mem i hk)) ?_⟩
    intro t ht hjt
    -- the first interval has ended, so what covers `t` comes later
    have hone := hc t (List.mem_append_right _ ht) (Int.le_trans (ho.head_le (by simp)) hjt)
    have hnot : ¬ i.covers t = true := by
      rw [covers_of_closed hend, Instant.lt_def]
      simp only [Instant.le_def] at hjt
      omega
    rwa [coverage_cons, if_neg hnot] at hone

/--
An audit without violations means that exactly one interval lasts at every instant from the earliest start on, and none
before. Where closed intervals have a length, it is enough for an audit without violations that exactly one interval
lasts at those of these instants at which one starts or ends.
-/
theorem audit_coverage (is : List Interval) (hne : is ≠ []) :
    ∃ first ∈ is, (∀ i ∈ is, first.startsAt ≤ i.startsAt) ∧
      ((audit is).violations = [] → ∀ t, coverage is t = if first.startsAt ≤ t then 1 else 0) ∧
      ((∀ i ∈ is, i.HasLength) → (∀ t ∈ bounds is, first.startsAt ≤ t → coverage is t = 1) →
        (audit is).violations = []) := by
  have hperm := sorted_perm is
  have ho := sorted_startOrdered is
  rw [audit_violations_iff]
  cases hsorted : sorted is with
  | nil =>
    rw [hsorted] at hperm
    exact absurd (List.nil_perm.1 hperm) hne
  | cons first rest =>
    rw [hsorted] at hperm ho
    refine ⟨first, hperm.mem_iff.1 List.mem_cons_self, fun i hi => ho.head_le (hperm.mem_iff.2 hi), ?_, ?_⟩
    . intro hj t
      rw [← coverage_perm hperm, hj.coverage_eq ho]
    . intro hl hc
      apply joined_of_coverage ho
      . intro i hi
        exact hl i (hperm.mem_iff.1 hi)
      . intro t ht hle
        rw [coverage_perm hperm]
        exact hc t ((hperm.flatMap_right _).mem_iff.1 ht) hle

/--
Two intervals of which the second is listed first.
-/
def swapped : List Interval :=
  let span (serial : Nat) (start : Int) (endsAt : Option Int) : Interval := {
    id := .ofSerial serial
    monitorId := .ofSerial 1
    statusId := .ofSerial 2
    startsAt := .ofNanos start
    endsAt := endsAt.map .ofNanos
    createdAt := .ofNanos start
    rootCause := none
    createdBy := none }
  [span 12 5000 none, span 11 1000 (some 5000)]

theorem audit_coverage_swapped :
    swapped ≠ [] ∧ (∀ i ∈ swapped, i.HasLength) ∧ (∀ t ∈ bounds swapped, coverage swapped t = 1) ∧
      (audit swapped).violations = [] ∧
      ∃ first ∈ swapped, ∀ t, coverage swapped t = if first.startsAt ≤ t then 1 else 0 := by
  have hlength : ∀ i ∈ swapped, i.HasLength := by decide
  have hbounds : ∀ t ∈ bounds swapped, coverage swapped t = 1 := by decide
  obtain ⟨first, hfirst, _, hcovered, hclean⟩ := audit_coverage swapped (by decide)
  have hclean := hclean hlength fun t ht _ => hbounds t ht
  exact ⟨by decide, hlength, hbounds, hclean, first, hfirst, hcovered hclean⟩

end Interval

end StatusTimeline
