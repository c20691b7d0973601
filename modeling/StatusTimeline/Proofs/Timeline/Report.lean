import Mathlib.Data.List.Forall2
import Mathlib.Data.List.ReduceOption
import StatusTimeline.Proofs.Timeline.Joined

/-!
This module contains what the report of an audit says about the intervals that are audited. It tells the findings by what
they mean, without the way in which the audit comes to them: a report names all that is wrong with the sorted intervals,
in their order, and nothing else.
-/

namespace StatusTimeline

namespace Interval

def startsWith (starts created : Instant) (i : Interval) : Bool := i.startsAt = starts && i.createdAt = created

def NoLater (i j : Interval) : Prop :=
  i.startsAt < j.startsAt ∨ i.startsAt = j.startsAt ∧ i.createdAt ≤ j.createdAt

/--
A list holds the given intervals by start, then by creation, and those equal in both in the order in which they are given.
-/
structure StablySorted (is sorted : List Interval) : Prop where
  perm : sorted.Perm is
  ordered : sorted.Pairwise NoLater
  stable : ∀ starts created, sorted.filter (startsWith starts created) = is.filter (startsWith starts created)

variable {is js : List Interval} {i j : Interval}

theorem startsWith_iff {starts created : Instant} :
    i.startsWith starts created = true ↔ i.startsAt = starts ∧ i.createdAt = created := by
  simp [startsWith]

theorem stablySorted_sorted (is : List Interval) : StablySorted is (sorted is) where
  perm := sorted_perm is
  ordered := (List.pairwise_mergeSort timelineLe_trans timelineLe_total is).imp timelineLe_iff.1
  stable := by
    intro starts created
    have htied : (is.filter (startsWith starts created)).Pairwise fun i j => timelineLe i j = true := by
      rw [List.pairwise_filter]
      apply List.pairwise_of_forall
      intro i j hi hj
      obtain ⟨rfl, rfl⟩ := startsWith_iff.1 hi
      obtain ⟨hstarts, hcreated⟩ := startsWith_iff.1 hj
      exact timelineLe_iff.2 (.inr ⟨hstarts.symm, hcreated ▸ Int.le_refl _⟩)
    -- those that are equal in both are sorted as they stand, and there are as many of them
    have hsub : List.Sublist (is.filter (startsWith starts created)) (sorted is) :=
      List.sublist_mergeSort timelineLe_trans timelineLe_total htied List.filter_sublist
    have hsub' := hsub.filter (startsWith starts created)
    rw [List.filter_filter] at hsub'
    simp only [Bool.and_self] at hsub'
    exact (hsub'.eq_of_length ((sorted_perm is).filter _).length_eq.symm).symm

theorem eq_of_tied (hperm : is.Perm js) (hi : is.Pairwise NoLater) (hj : js.Pairwise NoLater)
    (htied : ∀ starts created, is.filter (startsWith starts created) = js.filter (startsWith starts created)) :
    is = js := by
  induction is generalizing js with
  | nil => exact (List.nil_perm.1 hperm).symm
  | cons i is ih =>
    cases js with
    | nil => exact absurd (List.perm_nil.1 hperm) (List.cons_ne_nil i is)
    | cons j js =>
      rw [List.pairwise_cons] at hi hj
      -- neither of the two that come first comes strictly before the other one
      have hsame : j.startsWith i.startsAt i.createdAt = true := by
        rw [startsWith_iff]
        have hij := List.mem_cons.1 (hperm.mem_iff.1 (List.mem_cons_self (a := i) (l := is)))
        have hji := List.mem_cons.1 (hperm.mem_iff.2 (List.mem_cons_self (a := j) (l := js)))
        rcases hij with rfl | hij
        . exact ⟨rfl, rfl⟩
        . rcases hji with rfl | hji
          . exact ⟨rfl, rfl⟩
          . have h₁ := hi.1 j hji
            have h₂ := hj.1 i hij
            simp only [NoLater, Instant.lt_def, Instant.le_def, Instant.slot_inj] at *
            omega
      have heq : i = j := by
        have h := htied i.startsAt i.createdAt
        rw [List.filter_cons_of_pos (startsWith_iff.2 ⟨rfl, rfl⟩), List.filter_cons_of_pos hsame] at h
        exact (List.cons.inj h).1
      subst heq
      rw [ih hperm.cons_inv hi.2 hj.2]
      intro starts created
      have h := htied starts created
      simp only [List.filter_cons] at h
      split at h
      . exact (List.cons.inj h).2
      . exact h

theorem StablySorted.unique (hi : StablySorted is i₁) (hj : StablySorted is i₂) : i₁ = i₂ :=
  eq_of_tied (hi.perm.trans hj.perm.symm) hi.ordered hj.ordered fun starts created =>
    (hi.stable starts created).trans (hj.stable starts created).symm

end Interval

namespace Violation

/--
What is wrong with sorted intervals as far as they are open.
-/
inductive OfOpen (is : List Interval) : Violation → Prop where
  | noneOpen (hne : is ≠ []) (hclosed : ∀ i ∈ is, i.isOpen = false) : OfOpen is noOpenInterval
  | manyOpen (hmany : 2 ≤ is.countP (·.isOpen)) : OfOpen is (multipleOpen ((is.filter (·.isOpen)).map (·.id)))

/--
What is wrong between an interval and the one that follows it.
-/
inductive Between (i j : Interval) : Violation → Prop where
  | followed (hopen : i.endsAt = none) : Between i j (openNotLast i.id)
  | early {endsAt : Instant} (hend : i.endsAt = some endsAt) (hlt : endsAt < j.startsAt) :
    Between i j (gap i.id j.id endsAt j.startsAt)
  | late {endsAt : Instant} (hend : i.endsAt = some endsAt) (hlt : j.startsAt < endsAt) :
    Between i j (overlap i.id j.id endsAt j.startsAt)

/--
The finding, if there is one, is the only violation of which a condition holds.
-/
def Sole (P : Violation → Prop) (finding : Option Violation) : Prop := ∀ v, finding = some v ↔ P v

variable {P : Violation → Prop}

theorem sole_none (h : ∀ v, ¬ P v) : Sole P none := fun v => iff_of_false (by simp) (h v)

theorem sole_some {v : Violation} (h : P v) (hsole : ∀ w, P w → w = v) : Sole P (some v) := by
  intro w
  constructor
  . intro heq
    exact Option.some.inj heq ▸ h
  . intro hw
    rw [hsole w hw]

end Violation

namespace Audit

theorem length_openIds (is : List Interval) : (openIds is).length = is.countP (·.isOpen) := by
  rw [openIds, List.length_map, List.countP_eq_length_filter]

theorem sole_openViolations (is : List Interval) :
    ∃ finding, openViolations is = finding.toList ∧ Violation.Sole (Violation.OfOpen is) finding := by
  have hcount := length_openIds is
  unfold openViolations
  split
  . next hnil =>
    rw [hnil] at hcount
    have hclosed : ∀ i ∈ is, i.isOpen = false := by simpa using List.countP_eq_zero.1 hcount.symm
    by_cases hne : is = []
    . refine ⟨none, by simp [hne], Violation.sole_none ?_⟩
      rintro _ (⟨hne', _⟩ | hmany)
      . exact hne' hne
      . rw [← hcount] at hmany
        cases hmany
    . refine ⟨some .noOpenInterval, by simp [hne], Violation.sole_some (.noneOpen hne hclosed) ?_⟩
      rintro _ (_ | hmany)
      . rfl
      . rw [← hcount] at hmany
        cases hmany
  . next id hone =>
    rw [hone, List.length_singleton] at hcount
    refine ⟨none, rfl, Violation.sole_none ?_⟩
    rintro _ (⟨_, hclosed⟩ | hmany)
    . rw [List.countP_eq_zero.2 (by simpa using hclosed)] at hcount
      cases hcount
    . omega
  . next hnone hone =>
    have hmany : 2 ≤ is.countP (·.isOpen) := by
      rw [← hcount]
      match hids : openIds is with
      | [] => exact (hnone hids).elim
      | [id] => exact (hone id hids).elim
      | _ :: _ :: _ => simp
    refine ⟨some (.multipleOpen (openIds is)), rfl, Violation.sole_some (.manyOpen hmany) ?_⟩
    rintro _ (⟨_, hclosed⟩ | _)
    . rw [List.countP_eq_zero.2 (by simpa using hclosed)] at hmany
      cases hmany
    . rfl

theorem sole_pairViolations (i j : Interval) :
    ∃ finding, pairViolations i j = finding.toList ∧ Violation.Sole (Violation.Between i j) finding := by
  unfold pairViolations
  cases hend : i.endsAt with
  | none =>
    refine ⟨some (.openNotLast i.id), rfl, Violation.sole_some (.followed hend) ?_⟩
    rintro _ (_ | ⟨hend', _⟩ | ⟨hend', _⟩)
    . rfl
    . cases hend.symm.trans hend'
    . cases hend.symm.trans hend'
  | some e =>
    have hends : ∀ {e'}, i.endsAt = some e' → e' = e := fun hend' => Option.some.inj (hend'.symm.trans hend)
    simp only
    split
    . next hlt =>
      refine ⟨some (.gap i.id j.id e j.startsAt), rfl, Violation.sole_some (.early hend hlt) ?_⟩
      rintro _ (hopen | ⟨hend', _⟩ | ⟨hend', hgt⟩)
      . cases hend.symm.trans hopen
      . rw [hends hend']
      . rw [hends hend', Instant.lt_def] at hgt
        rw [Instant.lt_def] at hlt
        omega
    . next hnlt =>
      split
      . next hgt =>
        refine ⟨some (.overlap i.id j.id e j.startsAt), rfl, Violation.sole_some (.late hend hgt) ?_⟩
        rintro _ (hopen | ⟨hend', hlt⟩ | ⟨hend', _⟩)
        . cases hend.symm.trans hopen
        . exact absurd (hends hend' ▸ hlt) hnlt
        . rw [hends hend']
      . next hngt =>
        refine ⟨none, rfl, Violation.sole_none ?_⟩
        rintro _ (hopen | ⟨hend', hlt⟩ | ⟨hend', hgt⟩)
        . cases hend.symm.trans hopen
        . exact hnlt (hends hend' ▸ hlt)
        . exact hngt (hends hend' ▸ hgt)

end Audit

namespace Interval

/--
The pairs of an interval and the one that follows it.
-/
def pairs (is : List Interval) : List (Interval × Interval) := is.zip is.tail

/--
What the report on intervals that were sorted says: how many they are; what is wrong as far as they are open, then what is
wrong in each pair, in their order; which one is open if it is the only one; and that nothing is wrong with intervals of
which each ends where the next one starts and the last one is open.
-/
structure ReportedBy (is : List Interval) (r : AuditReport) : Prop where
  count : r.intervalCount = is.length
  violations : ∃ (ofOpen : Option Violation) (between : List (Option Violation)),
    r.violations = ofOpen.toList ++ between.reduceOption ∧ Violation.Sole (Violation.OfOpen is) ofOpen ∧
      List.Forall₂ (fun p finding => Violation.Sole (Violation.Between p.1 p.2) finding) (pairs is) between
  openInterval : ∀ id, r.openInterval = some id ↔ ∃ i, is.filter (·.isOpen) = [i] ∧ i.id = id
  clean : r.violations = [] ↔
    is = [] ∨ (∀ p ∈ pairs is, p.1.endsAt = some p.2.startsAt) ∧ ∃ last, is.getLast? = some last ∧ last.isOpen = true

theorem pairs_cons_cons (i j : Interval) (is : List Interval) : pairs (i :: j :: is) = (i, j) :: pairs (j :: is) := rfl

theorem chainViolations_eq (is : List Interval) : ∃ between : List (Option Violation),
    Audit.chainViolations is = between.reduceOption ∧
      List.Forall₂ (fun p finding => Violation.Sole (Violation.Between p.1 p.2) finding) (pairs is) between := by
  induction is with
  | nil => exact ⟨[], rfl, .nil⟩
  | cons i is ih =>
    cases is with
    | nil => exact ⟨[], rfl, .nil⟩
    | cons j is =>
      obtain ⟨between, heq, hall⟩ := ih
      obtain ⟨finding, hpair, hsole⟩ := Audit.sole_pairViolations i j
      refine ⟨finding :: between, ?_, .cons hsole hall⟩
      rw [Audit.chainViolations, hpair, heq]
      cases finding <;> rfl

theorem joined_iff_pairs (is : List Interval) : Joined none is ↔
    is = [] ∨ (∀ p ∈ pairs is, p.1.endsAt = some p.2.startsAt) ∧ ∃ last, is.getLast? = some last ∧ last.isOpen = true := by
  induction is with
  | nil => simp [Joined]
  | cons i is ih =>
    cases is with
    | nil => simp [Joined, beginOr, pairs, isOpen]
    | cons j is =>
      rw [Joined, ih, pairs_cons_cons, List.forall_mem_cons, List.getLast?_cons_cons]
      simp [beginOr, and_assoc]

theorem soleOpen_iff (is : List Interval) (id : Uuid) :
    Audit.soleOpen is = some id ↔ ∃ i, is.filter (·.isOpen) = [i] ∧ i.id = id := by
  unfold Audit.soleOpen Audit.openIds
  generalize is.filter (·.isOpen) = opens
  match opens with
  | [] => simp
  | [i] => simp
  | _ :: _ :: _ => simp

/--
The report of an audit is on the intervals as they are when they are sorted by start, then by creation, which they can be
in one way only if those equal in both keep their order.
-/
theorem audit_reported (is : List Interval) :
    ∃ sorted, StablySorted is sorted ∧ (∀ js, StablySorted is js → js = sorted) ∧ sorted.length = is.length ∧
      ReportedBy sorted (audit is) := by
  have hsorted := stablySorted_sorted is
  refine ⟨sorted is, hsorted, fun js hjs => hjs.unique hsorted, (sorted_perm is).length_eq, ?_⟩
  obtain ⟨ofOpen, hopen, hsole⟩ := Audit.sole_openViolations (sorted is)
  obtain ⟨between, hbetween, hall⟩ := chainViolations_eq (sorted is)
  refine ⟨rfl, ⟨ofOpen, between, ?_, hsole, hall⟩, soleOpen_iff (sorted is), ?_⟩
  . rw [← hopen, ← hbetween]
    rfl
  . rw [audit_violations_iff, joined_iff_pairs]

end Interval

end StatusTimeline
