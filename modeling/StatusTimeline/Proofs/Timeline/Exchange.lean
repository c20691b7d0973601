import StatusTimeline.Proofs.Timeline.Order
import StatusTimeline.Proofs.Timeline.Report

/-!
This module contains what the report of an audit shows of two intervals that agree in start and creation and stand next
to one another in the sorted list: it tells which of the two comes first, unless it has nothing to say on them, or on
what comes before them, that depends on what follows.
-/

namespace StatusTimeline

namespace Violation

/--
The interval that is at fault, which in a pair is the earlier one.
-/
def subject : Violation → Option Uuid
  | noOpenInterval => none
  | multipleOpen _ => none
  | openNotLast id => some id
  | gap before _ _ _ => some before
  | overlap before _ _ _ => some before

theorem Between.follower {i j k : Interval} {v w : Violation} (hv : Between i j v) (hw : Between i k w) (heq : v = w) :
    i.endsAt = none ∨ j.id = k.id := by
  cases hv with
  | followed hopen => exact .inl hopen
  | early => cases hw <;> simp_all
  | late => cases hw <;> simp_all

end Violation

namespace Audit

variable {i j k : Interval} {is as bs cs : List Interval} {v : Violation}

theorem subject_openViolations (hv : v ∈ openViolations is) : v.subject = none := by
  unfold openViolations at hv
  split at hv
  . split at hv
    . cases hv
    . rw [List.mem_singleton.1 hv]
      rfl
  . cases hv
  . rw [List.mem_singleton.1 hv]
    rfl

theorem subject_pairViolations (hv : v ∈ pairViolations i j) : v.subject = some i.id := by
  obtain ⟨finding, heq, hsole⟩ := sole_pairViolations i j
  rw [heq, Option.mem_toList] at hv
  cases (hsole v).1 hv <;> rfl

theorem subject_chainViolations (hv : v ∈ chainViolations is) : ∃ i ∈ is.dropLast, v.subject = some i.id := by
  induction is with
  | nil => cases hv
  | cons i is ih =>
    cases is with
    | nil => cases hv
    | cons j is =>
      rw [chainViolations, List.mem_append] at hv
      rw [List.dropLast_cons_cons]
      cases hv with
      | inl hv => exact ⟨i, List.mem_cons_self, subject_pairViolations hv⟩
      | inr hv =>
        obtain ⟨k, hk, hsubject⟩ := ih hv
        exact ⟨k, List.mem_cons_of_mem _ hk, hsubject⟩

theorem chainViolations_append (as : List Interval) (i : Interval) (bs : List Interval) :
    chainViolations (as ++ i :: bs) = chainViolations (as ++ [i]) ++ chainViolations (i :: bs) := by
  induction as with
  | nil => simp [chainViolations]
  | cons a as ih =>
    cases as with
    | nil => simp [chainViolations]
    | cons b as =>
      simp only [List.cons_append, chainViolations] at ih ⊢
      rw [ih, List.append_assoc]

theorem openViolations_of_two (h : 2 ≤ (openIds is).length) : openViolations is = [.multipleOpen (openIds is)] := by
  unfold openViolations
  split
  . next hnil =>
    rw [hnil] at h
    cases h
  . next id hone =>
    rw [hone, List.length_singleton] at h
    omega
  . rfl

/--
What is wrong with an interval as it is followed by the first of a list.
-/
def endViolations (i : Interval) (bs : List Interval) : List Violation :=
  bs.head?.toList.flatMap (pairViolations i)

theorem chainViolations_cons (i : Interval) (bs : List Interval) :
    chainViolations (i :: bs) = endViolations i bs ++ chainViolations bs := by
  cases bs with
  | nil => rfl
  | cons b bs => simp [chainViolations, endViolations]

/--
Each interval can be blamed only for how it ends before the one that follows it.
-/
theorem filter_subject (hids : ((as ++ i :: bs).map (·.id)).Nodup) :
    (openViolations is ++ chainViolations (as ++ i :: bs)).filter (·.subject = some i.id) = endViolations i bs := by
  rw [List.map_append, List.map_cons, List.nodup_append, List.nodup_cons] at hids
  obtain ⟨_, ⟨hib, _⟩, hia⟩ := hids
  have hopen : (openViolations is).filter (·.subject = some i.id) = [] := by
    rw [List.filter_eq_nil_iff]
    intro v hv
    simp [subject_openViolations hv]
  have hearlier : (chainViolations (as ++ [i])).filter (·.subject = some i.id) = [] := by
    rw [List.filter_eq_nil_iff]
    intro v hv
    obtain ⟨a, ha, hsubject⟩ := subject_chainViolations hv
    rw [List.dropLast_concat] at ha
    simpa [hsubject] using hia a.id (List.mem_map_of_mem ha) i.id List.mem_cons_self
  have hlater : (chainViolations bs).filter (·.subject = some i.id) = [] := by
    rw [List.filter_eq_nil_iff]
    intro v hv
    obtain ⟨b, hb, hsubject⟩ := subject_chainViolations hv
    have hmem : b.id ∈ bs.map (·.id) := List.mem_map_of_mem (List.dropLast_subset bs hb)
    have hne : b.id ≠ i.id := fun heq => hib (heq ▸ hmem)
    simpa [hsubject] using hne
  have hself : (endViolations i bs).filter (·.subject = some i.id) = endViolations i bs := by
    rw [List.filter_eq_self]
    intro v hv
    obtain ⟨b, _, hv⟩ := List.mem_flatMap.1 hv
    simp [subject_pairViolations hv]
  rw [chainViolations_append, chainViolations_cons, List.filter_append, List.filter_append, List.filter_append, hopen,
    hearlier, hlater, hself, List.nil_append, List.nil_append, List.append_nil]

theorem filter_subject_none (is js : List Interval) :
    (openViolations is ++ chainViolations js).filter (·.subject = none) = openViolations is := by
  have hchain : (chainViolations js).filter (·.subject = none) = [] := by
    rw [List.filter_eq_nil_iff]
    intro v hv
    obtain ⟨i, _, hsubject⟩ := subject_chainViolations hv
    simp [hsubject]
  have hopen : (openViolations is).filter (·.subject = none) = openViolations is := by
    rw [List.filter_eq_self]
    intro v hv
    simp [subject_openViolations hv]
  rw [List.filter_append, hopen, hchain, List.append_nil]

/--
A finding names the interval that follows, so that it is the same for two of them only if that is no matter.
-/
theorem pairViolations_eq_iff (hne : j.id ≠ k.id) :
    pairViolations i j = pairViolations i k ↔
      i.endsAt = none ∨ i.endsAt = some j.startsAt ∧ i.endsAt = some k.startsAt := by
  cases hend : i.endsAt with
  | none => simp [pairViolations, hend]
  | some e =>
    have hor : (some e = none ∨ some e = some j.startsAt ∧ some e = some k.startsAt) ↔
        pairViolations i j = [] ∧ pairViolations i k = [] := by
      rw [pairViolations_eq_nil, pairViolations_eq_nil, hend]
      simp
    rw [hor]
    constructor
    . intro heq
      obtain ⟨finding, hfinding, hsole⟩ := sole_pairViolations i j
      obtain ⟨finding', hfinding', hsole'⟩ := sole_pairViolations i k
      cases finding with
      | none => exact ⟨hfinding, heq ▸ hfinding⟩
      | some v =>
        have hv : finding' = some v := by
          rw [hfinding, hfinding'] at heq
          cases finding' with
          | none => simp at heq
          | some w => simpa using heq.symm
        rcases ((hsole v).1 rfl).follower ((hsole' v).1 hv) rfl with hopen | hid
        . cases hend.symm.trans hopen
        . exact absurd hid hne
    . intro ⟨hj, hk⟩
      rw [hj, hk]

end Audit

namespace Interval

/--
Neither start nor creation tells which of the two comes first.
-/
def Tied (i j : Interval) : Prop := i.startsAt = j.startsAt ∧ i.createdAt = j.createdAt

instance (i j : Interval) : Decidable (Tied i j) := by
  unfold Tied
  infer_instance

instance (i j : Interval) : Decidable (NoLater i j) := by
  unfold NoLater
  infer_instance

/--
Behind the interval comes nothing that its end could disagree with.
-/
def Settled (i : Interval) (post : List Interval) : Prop :=
  match post.head? with
  | none => i.endsAt = some i.startsAt
  | some k => i.endsAt = none ∨ i.endsAt = some i.startsAt ∧ k.startsAt = i.startsAt

/--
Of two tied intervals next to one another in a sorted list, the report does not tell which one comes first.
-/
structure Exchangeable (pre : List Interval) (i j : Interval) (post : List Interval) : Prop where
  apart : ¬ (i.endsAt = none ∧ j.endsAt = none)
  before : ∀ k ∈ pre.getLast?, k.endsAt = none ∨ k.endsAt = some i.startsAt
  first : Settled i post
  second : Settled j post

variable {i j k : Interval} {is js pre post xs ys : List Interval}

theorem Tied.symm (h : Tied i j) : Tied j i := ⟨h.1.symm, h.2.symm⟩

theorem Tied.noLater (h : Tied i j) : NoLater i j := .inr ⟨h.1, h.2 ▸ Int.le_refl _⟩

theorem tied_of_noLater (hij : NoLater i j) (hji : NoLater j i) : Tied i j := by
  simp only [NoLater, Tied, Instant.lt_def, Instant.le_def, Instant.slot_inj] at *
  omega

theorem noLater_iff : NoLater i j ↔ ¬ Precedes j i := by
  simp only [NoLater, Precedes, Instant.lt_def, Instant.le_def, Instant.slot_inj]
  omega

theorem tied_iff : Tied i j ↔ ¬ Precedes i j ∧ ¬ Precedes j i := by
  simp only [Tied, Precedes, Instant.lt_def, Instant.slot_inj]
  omega

theorem Precedes.noLater (h : Precedes i j) : NoLater i j := noLater_iff.2 h.asymm

theorem NoLater.trans (hij : NoLater i j) (hjk : NoLater j k) : NoLater i k :=
  timelineLe_iff.1 (timelineLe_trans i j k (timelineLe_iff.2 hij) (timelineLe_iff.2 hjk))

theorem sorted_of_noLater (h : is.Pairwise NoLater) : sorted is = is :=
  List.mergeSort_of_pairwise (h.imp timelineLe_iff.2)

theorem audit_of_noLater (h : is.Pairwise NoLater) : audit is =
    { intervalCount := is.length
      openInterval := Audit.soleOpen is
      violations := Audit.openViolations is ++ Audit.chainViolations is } := by
  rw [audit, sorted_of_noLater h]

theorem audit_sorted (is : List Interval) : audit (sorted is) = audit is := by
  have hsorted : sorted (sorted is) = sorted is := sorted_of_noLater (stablySorted_sorted is).ordered
  unfold audit
  rw [hsorted]

/--
What is wrong with the first of two tied intervals is the same before the other one and behind it.
-/
theorem settled_iff (htied : Tied i j) (hj : ∀ k ∈ post, j.id ≠ k.id) :
    Audit.pairViolations i j = Audit.endViolations i post ↔ Settled i post := by
  cases post with
  | nil =>
    have hend : Audit.endViolations i [] = [] := rfl
    rw [hend, Audit.pairViolations_eq_nil, ← htied.1]
    exact Iff.rfl
  | cons k post =>
    have hend : Audit.endViolations i (k :: post) = Audit.pairViolations i k := by simp [Audit.endViolations]
    rw [hend, Audit.pairViolations_eq_iff (hj k List.mem_cons_self), ← htied.1]
    unfold Settled
    constructor
    . intro h
      apply h.imp_right
      intro ⟨hzero, hk⟩
      exact ⟨hzero, Option.some.inj (hk.symm.trans hzero)⟩
    . intro h
      apply h.imp_right
      intro ⟨hzero, hk⟩
      exact ⟨hzero, hk ▸ hzero⟩

theorem openIds_swap (hapart : ¬ (i.endsAt = none ∧ j.endsAt = none)) :
    Audit.openIds (pre ++ i :: j :: post) = Audit.openIds (pre ++ j :: i :: post) := by
  unfold Audit.openIds
  congr 1
  rw [List.filter_append, List.filter_append]
  congr 1
  cases hi : i.endsAt <;> cases hj : j.endsAt <;> simp_all [isOpen]

theorem openViolations_swap_iff (hne : i.id ≠ j.id) :
    Audit.openViolations (pre ++ i :: j :: post) = Audit.openViolations (pre ++ j :: i :: post) ↔
      ¬ (i.endsAt = none ∧ j.endsAt = none) := by
  constructor
  . intro heq ⟨hi, hj⟩
    have hmany : ∀ {a b : Interval}, a.endsAt = none → b.endsAt = none →
        Audit.openViolations (pre ++ a :: b :: post) =
          [.multipleOpen (Audit.openIds pre ++ a.id :: b.id :: Audit.openIds post)] := by
      intro a b ha hb
      have hids : Audit.openIds (pre ++ a :: b :: post) = Audit.openIds pre ++ a.id :: b.id :: Audit.openIds post := by
        simp [Audit.openIds, isOpen, ha, hb]
      rw [← hids]
      apply Audit.openViolations_of_two
      rw [hids]
      simp
      omega
    rw [hmany hi hj, hmany hj hi] at heq
    simp only [List.cons.injEq, and_true, Violation.multipleOpen.injEq, List.append_cancel_left_eq] at heq
    exact hne heq.1
  . intro hapart
    unfold Audit.openViolations
    rw [openIds_swap hapart]
    simp

theorem Settled.momentary (h : Settled i post) : i.endsAt = none ∨ i.endsAt = some i.startsAt := by
  unfold Settled at h
  split at h
  . exact .inr h
  . exact h.imp_right And.left

theorem noLater_swap (h : (pre ++ i :: j :: post).Pairwise NoLater) (htied : Tied i j) :
    (pre ++ j :: i :: post).Pairwise NoLater := by
  simp only [List.pairwise_append, List.pairwise_cons, List.forall_mem_cons] at h ⊢
  obtain ⟨hpre, ⟨⟨_, hi⟩, hj, hpost⟩, hbefore⟩ := h
  refine ⟨hpre, ⟨⟨htied.symm.noLater, hj⟩, hi, hpost⟩, ?_⟩
  intro k hk
  obtain ⟨hki, hkj, hrest⟩ := hbefore k hk
  exact ⟨hkj, hki, hrest⟩

section Swap

variable (hids : ((pre ++ i :: j :: post).map (·.id)).Nodup) (htied : Tied i j)

include hids htied

theorem Exchangeable.chainViolations_eq (h : Exchangeable pre i j post) :
    Audit.chainViolations (pre ++ i :: j :: post) = Audit.chainViolations (pre ++ j :: i :: post) := by
  simp only [List.map_append, List.map_cons, List.nodup_append, List.nodup_cons, List.mem_cons, not_or] at hids
  obtain ⟨_, ⟨⟨hne, hi⟩, hj, _⟩, _⟩ := hids
  have hij := (settled_iff htied (fun k hk heq => hj (heq ▸ List.mem_map_of_mem hk))).2 h.first
  have hji := (settled_iff htied.symm (fun k hk heq => hi (heq ▸ List.mem_map_of_mem hk))).2 h.second
  -- one of the two has nothing wrong with it, so that the order in which they are blamed is no matter
  have hnil : Audit.pairViolations i j = [] ∨ Audit.pairViolations j i = [] := by
    rw [Audit.pairViolations_eq_nil, Audit.pairViolations_eq_nil]
    rcases h.first.momentary with hopen | hzero
    . right
      rw [h.second.momentary.resolve_left fun hopen' => h.apart ⟨hopen, hopen'⟩, htied.1]
    . left
      rw [hzero, htied.1]
  have hpair : Audit.chainViolations (i :: j :: post) = Audit.chainViolations (j :: i :: post) := by
    rw [Audit.chainViolations, Audit.chainViolations, Audit.chainViolations_cons j, Audit.chainViolations_cons i, ← hij,
      ← hji]
    cases hnil with
    | inl hnil => rw [hnil, List.nil_append, List.nil_append]
    | inr hnil => rw [hnil, List.nil_append, List.nil_append]
  rcases List.eq_nil_or_concat pre with rfl | ⟨pre, k, rfl⟩
  . exact hpair
  . have hk : Audit.pairViolations k i = Audit.pairViolations k j := by
      rw [Audit.pairViolations_eq_iff hne]
      apply (h.before k (by simp)).imp_right
      intro hend
      exact ⟨hend, htied.1 ▸ hend⟩
    simp only [List.concat_eq_append, List.append_assoc, List.cons_append, List.nil_append]
    rw [Audit.chainViolations_append pre k (i :: _), Audit.chainViolations_append pre k (j :: _),
      Audit.chainViolations_cons k, Audit.chainViolations_cons k, hpair]
    simp [Audit.endViolations, hk]

theorem settled_of_violations_eq
    (heq : Audit.openViolations (pre ++ i :: j :: post) ++ Audit.chainViolations (pre ++ i :: j :: post) =
      Audit.openViolations (pre ++ j :: i :: post) ++ Audit.chainViolations (pre ++ j :: i :: post)) :
    Settled i post := by
  have hids' : (((pre ++ [j]) ++ i :: post).map (·.id)).Nodup := by
    rw [List.append_assoc]
    exact (((List.Perm.swap j i post).append_left pre).map _).nodup_iff.1 hids
  have hblame := congrArg (List.filter (·.subject = some i.id)) heq
  rw [Audit.filter_subject hids, ← List.singleton_append (l := i :: post), ← List.append_assoc,
    Audit.filter_subject hids'] at hblame
  simp only [List.map_append, List.map_cons, List.nodup_append, List.nodup_cons] at hids
  have hj : ∀ k ∈ post, j.id ≠ k.id := fun k hk hid => hids.2.1.2.1 (hid ▸ List.mem_map_of_mem hk)
  apply (settled_iff htied hj).1
  simpa [Audit.endViolations] using hblame

theorem exchangeable_of_violations_eq
    (heq : Audit.openViolations (pre ++ i :: j :: post) ++ Audit.chainViolations (pre ++ i :: j :: post) =
      Audit.openViolations (pre ++ j :: i :: post) ++ Audit.chainViolations (pre ++ j :: i :: post)) :
    Exchangeable pre i j post := by
  have hids' : ((pre ++ j :: i :: post).map (·.id)).Nodup :=
    (((List.Perm.swap j i post).append_left pre).map _).nodup_iff.1 hids
  have hne : i.id ≠ j.id := by
    intro hid
    simp [List.nodup_append, hid] at hids
  refine ⟨?_, ?_, settled_of_violations_eq hids htied heq, settled_of_violations_eq hids' htied.symm heq.symm⟩
  . apply (openViolations_swap_iff hne).1
    have hopen := congrArg (List.filter (·.subject = none)) heq
    rwa [Audit.filter_subject_none, Audit.filter_subject_none] at hopen
  . intro k hk
    obtain ⟨pre, rfl⟩ := List.getLast?_eq_some_iff.1 hk
    rw [List.append_assoc, List.singleton_append] at hids hids' heq
    rw [List.append_assoc, List.singleton_append] at heq
    have hblame := congrArg (List.filter (·.subject = some k.id)) heq
    rw [Audit.filter_subject hids, Audit.filter_subject hids'] at hblame
    have hpair : Audit.pairViolations k i = Audit.pairViolations k j := by simpa [Audit.endViolations] using hblame
    exact ((Audit.pairViolations_eq_iff hne).1 hpair).imp_right And.left

end Swap

/--
Two tied intervals that stand next to one another in the sorted list can be exchanged without a trace in the report only
if they are exchangeable.
-/
theorem audit_swap_iff (hids : ((pre ++ i :: j :: post).map (·.id)).Nodup)
    (hsorted : (pre ++ i :: j :: post).Pairwise NoLater) (htied : Tied i j) :
    audit (pre ++ i :: j :: post) = audit (pre ++ j :: i :: post) ↔ Exchangeable pre i j post := by
  rw [audit_of_noLater hsorted, audit_of_noLater (noLater_swap hsorted htied)]
  constructor
  . intro heq
    exact exchangeable_of_violations_eq hids htied (congrArg AuditReport.violations heq)
  . intro h
    have hne : i.id ≠ j.id := by
      intro hid
      simp [List.nodup_append, hid] at hids
    have hlength : (pre ++ i :: j :: post).length = (pre ++ j :: i :: post).length := by simp
    rw [hlength, (openViolations_swap_iff hne).2 h.apart, h.chainViolations_eq hids htied, Audit.soleOpen,
      openIds_swap h.apart]
    rfl

end Interval

end StatusTimeline
