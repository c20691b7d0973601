import Mathlib.Data.List.Nodup
import Mathlib.Data.List.Pairwise
import StatusTimeline.Proofs.Timeline.Exchange

/-!
This module contains what an audit owes to the order in which it is given its intervals. Those that agree in start and
creation are walked as they are given, and what is said on them may depend on it. It tells for which intervals the
report is the same in every order, by exchanging neighbours in the sorted list.
-/

namespace StatusTimeline

namespace Interval

variable {i j k : Interval} {is js pre post xs ys : List Interval}

/--
Of two tied intervals it does not show, in whatever order they are given, which one comes first: each of them is open or
has no length, and not both are open; what comes directly before them is open or ends where they start; and they are
followed by what starts with them, if one of them is open or anything starts later.
-/
structure TieHidden (is : List Interval) (i j : Interval) : Prop where
  momentary : i.endsAt = none ∨ i.endsAt = some i.startsAt
  apart : ¬ (i.endsAt = none ∧ j.endsAt = none)
  before : ∀ k ∈ is, Precedes k i → (∀ l ∈ is, ¬ (Precedes k l ∧ Precedes l i)) →
    k.endsAt = none ∨ k.endsAt = some i.startsAt
  followed : (i.endsAt = none ∨ ∃ k ∈ is, i.startsAt < k.startsAt) →
    ∃ l ∈ is, l.startsAt = i.startsAt ∧ i.createdAt < l.createdAt

def TiesHidden (is : List Interval) : Prop := ∀ i ∈ is, ∀ j ∈ is, i ≠ j → Tied i j → TieHidden is i j

instance (is : List Interval) (i j : Interval) : Decidable (TieHidden is i j) :=
  decidable_of_iff
    ((i.endsAt = none ∨ i.endsAt = some i.startsAt) ∧ ¬ (i.endsAt = none ∧ j.endsAt = none) ∧
      (∀ k ∈ is, Precedes k i → (∀ l ∈ is, ¬ (Precedes k l ∧ Precedes l i)) →
        k.endsAt = none ∨ k.endsAt = some i.startsAt) ∧
      ((i.endsAt = none ∨ ∃ k ∈ is, i.startsAt < k.startsAt) →
        ∃ l ∈ is, l.startsAt = i.startsAt ∧ i.createdAt < l.createdAt))
    ⟨fun ⟨hm, ha, hb, hf⟩ => ⟨hm, ha, hb, hf⟩, fun ⟨hm, ha, hb, hf⟩ => ⟨hm, ha, hb, hf⟩⟩

instance (is : List Interval) : Decidable (TiesHidden is) := by
  unfold TiesHidden
  infer_instance

theorem TieHidden.settled (h : TieHidden is i j) (hsub : ∀ k ∈ post, k ∈ is)
    (hafter : ∀ k ∈ is, Precedes i k → k ∈ post) (hnoLater : ∀ k ∈ post, NoLater i k)
    (hsorted : post.Pairwise NoLater) : Settled i post := by
  have hlater : ∀ {l}, l ∈ is → l.startsAt = i.startsAt ∧ i.createdAt < l.createdAt → l ∈ post := fun hl hend =>
    hafter _ hl (.inr ⟨hend.1.symm, hend.2⟩)
  cases post with
  | nil =>
    apply h.momentary.resolve_left
    intro hopen
    obtain ⟨l, hl, hend⟩ := h.followed (.inl hopen)
    cases hlater hl hend
  | cons k post =>
    apply h.momentary.imp_right
    intro hzero
    refine ⟨hzero, ?_⟩
    rcases hnoLater k List.mem_cons_self with hlt | heq
    . obtain ⟨l, hl, hend⟩ := h.followed (.inr ⟨k, hsub k List.mem_cons_self, hlt⟩)
      -- what starts with the interval comes no earlier than the first of the list, which starts later
      have hkl : k = l ∨ NoLater k l :=
        (List.mem_cons.1 (hlater hl hend)).imp Eq.symm ((List.pairwise_cons.1 hsorted).1 l)
      rcases hkl with rfl | hkl
      . exact hend.1
      . simp only [NoLater, Instant.lt_def, Instant.slot_inj] at *
        omega
    . exact heq.1.symm

/--
What stands directly before the first of two tied intervals is tied with it too, or nothing comes in between.
-/
theorem TiesHidden.before_last (h : TiesHidden is) (hij : TieHidden is i j) (hnodup : is.Nodup)
    (hperm : (pre ++ [k] ++ i :: post).Perm is) (hsorted : (pre ++ [k] ++ i :: post).Pairwise NoLater) :
    k.endsAt = none ∨ k.endsAt = some i.startsAt := by
  have hmem : ∀ {l}, l ∈ is ↔ (l ∈ pre ∨ l = k) ∨ l = i ∨ l ∈ post := by
    intro l
    rw [← hperm.mem_iff, List.mem_append, List.mem_append, List.mem_singleton, List.mem_cons]
  rw [List.pairwise_append, List.pairwise_append, List.pairwise_cons, List.pairwise_cons] at hsorted
  obtain ⟨⟨_, _, hpre⟩, ⟨hpost, _⟩, hbefore⟩ := hsorted
  have hki : NoLater k i := hbefore k (by simp) i (by simp)
  by_cases hlt : Precedes k i
  . apply hij.before k (hmem.2 (by simp)) hlt
    rintro l hl ⟨hkl, hli⟩
    rcases hmem.1 hl with (hl | rfl) | rfl | hl
    . exact noLater_iff.1 (hpre l hl k (by simp)) hkl
    . exact hkl.asymm hkl
    . exact hli.asymm hli
    . exact noLater_iff.1 (hpost l hl) hli
  . have hk : Tied k i := tied_iff.2 ⟨hlt, noLater_iff.1 hki⟩
    have hne : k ≠ i := by
      rintro rfl
      have := hperm.nodup_iff.2 hnodup
      simp [List.nodup_append] at this
    have := (h k (hmem.2 (by simp)) i (hmem.2 (by simp)) hne hk).momentary
    rwa [hk.1] at this

theorem TiesHidden.exchangeable (h : TiesHidden is) (hids : (is.map (·.id)).Nodup)
    (hperm : (pre ++ i :: j :: post).Perm is) (hsorted : (pre ++ i :: j :: post).Pairwise NoLater) (htied : Tied i j) :
    Exchangeable pre i j post := by
  have hnodup := hperm.nodup_iff.2 (List.Nodup.of_map _ hids)
  have hmem : ∀ {k}, k ∈ is ↔ k ∈ pre ∨ k = i ∨ k = j ∨ k ∈ post := by
    intro k
    rw [← hperm.mem_iff, List.mem_append, List.mem_cons, List.mem_cons]
  have hparts := hsorted
  rw [List.pairwise_append, List.pairwise_cons, List.pairwise_cons] at hparts
  obtain ⟨_, ⟨hi, hj, hpost⟩, hbefore⟩ := hparts
  have hne : i ≠ j := by
    rintro rfl
    simp [List.nodup_append] at hnodup
  have hij := h i (hmem.2 (by simp)) j (hmem.2 (by simp)) hne htied
  have hji := h j (hmem.2 (by simp)) i (hmem.2 (by simp)) hne.symm htied.symm
  have hafter : ∀ k ∈ is, Precedes i k → k ∈ post := by
    intro k hk hik
    rcases hmem.1 hk with hk | rfl | rfl | hk
    . exact absurd hik (noLater_iff.1 (hbefore k hk i (by simp)))
    . exact absurd hik hik.asymm
    . exact absurd hik (tied_iff.1 htied).1
    . exact hk
  have hafter' : ∀ k ∈ is, Precedes j k → k ∈ post := by
    intro k hk hjk
    apply hafter k hk
    simp only [Tied, Precedes] at *
    rwa [htied.1, htied.2]
  refine ⟨hij.apart, ?_, hij.settled (fun k hk => hmem.2 (by simp [hk])) hafter
    (fun k hk => hi k (by simp [hk])) hpost, hji.settled (fun k hk => hmem.2 (by simp [hk])) hafter' hj hpost⟩
  intro k hk
  obtain ⟨pre, rfl⟩ := List.getLast?_eq_some_iff.1 hk
  exact h.before_last hij (List.Nodup.of_map _ hids) hperm hsorted

section Hidden

variable (h : TiesHidden is) (hids : (is.map (·.id)).Nodup)

include h hids

/--
An interval may be brought forward past others that are tied with it.
-/
theorem audit_forward (pre : List Interval) {as bs : List Interval} (htied : ∀ a ∈ as, Tied a i)
    (hperm : (pre ++ (as ++ i :: bs)).Perm is) (hsorted : (pre ++ (as ++ i :: bs)).Pairwise NoLater) :
    audit (pre ++ (as ++ i :: bs)) = audit (pre ++ i :: (as ++ bs)) ∧
      (pre ++ i :: (as ++ bs)).Pairwise NoLater := by
  induction as generalizing pre with
  | nil => exact ⟨rfl, hsorted⟩
  | cons a as ih =>
    rw [List.forall_mem_cons] at htied
    simp only [List.cons_append] at hperm hsorted ⊢
    obtain ⟨heq, hsorted'⟩ := ih (pre ++ [a]) htied.2 (by simpa using hperm) (by simpa using hsorted)
    simp only [List.append_assoc, List.singleton_append] at heq hsorted'
    have hperm' : (pre ++ a :: i :: (as ++ bs)).Perm is :=
      ((List.perm_middle.symm.cons a).append_left pre).trans hperm
    have hex := h.exchangeable hids hperm' hsorted' htied.1
    have hids' := (hperm'.map (·.id)).nodup_iff.2 hids
    exact ⟨heq.trans ((audit_swap_iff hids' hsorted' htied.1).2 hex), noLater_swap hsorted' htied.1⟩

/--
From the head on, the intervals of one sorted list are brought to where they stand in the other one.
-/
theorem audit_eq_of_sorted (pre xs ys : List Interval) (hperm : (pre ++ xs).Perm is)
    (hxs : (pre ++ xs).Pairwise NoLater) (hys : (pre ++ ys).Pairwise NoLater) (hxy : xs.Perm ys) :
    audit (pre ++ xs) = audit (pre ++ ys) := by
  induction ys generalizing pre xs with
  | nil => rw [List.perm_nil.1 hxy]
  | cons y ys ih =>
    obtain ⟨as, bs, rfl⟩ := List.append_of_mem (hxy.mem_iff.2 List.mem_cons_self)
    have htied : ∀ a ∈ as, Tied a y := by
      intro a ha
      have hay : NoLater a y := (List.pairwise_append.1 (List.pairwise_append.1 hxs).2.1).2.2 a ha y (by simp)
      have hmem : a = y ∨ a ∈ ys := List.mem_cons.1 (hxy.mem_iff.1 (by simp [ha]))
      rcases hmem with rfl | hmem
      . exact ⟨rfl, rfl⟩
      . have hya : NoLater y a := (List.pairwise_cons.1 (List.pairwise_append.1 hys).2.1).1 a hmem
        exact tied_of_noLater hay hya
    obtain ⟨heq, hsorted⟩ := audit_forward h hids pre htied hperm hxs
    have hrest : (as ++ bs).Perm ys := (List.perm_middle.symm.trans hxy).cons_inv
    have hperm' : (pre ++ y :: (as ++ bs)).Perm is := (List.perm_middle.symm.append_left pre).trans hperm
    have := ih (pre ++ [y]) (as ++ bs) (by simpa using hperm') (by simpa using hsorted) (by simpa using hys) hrest
    simpa [heq] using this

end Hidden

theorem parts_perm (is : List Interval) (i : Interval) :
    (is.filter (Precedes · i) ++ (is.filter (Tied · i) ++ is.filter (Precedes i ·))).Perm is := by
  have hrest := List.filter_append_perm (fun k => decide (Tied k i)) (is.filter fun k => !decide (Precedes k i))
  have hties : (is.filter fun k => !decide (Precedes k i)).filter (Tied · i) = is.filter (Tied · i) := by
    rw [List.filter_filter]
    apply List.filter_congr
    intro k _
    by_cases hk : Tied k i
    . simp [hk, (tied_iff.1 hk).1]
    . simp [hk]
  have hlater : (is.filter fun k => !decide (Precedes k i)).filter (fun k => !decide (Tied k i)) =
      is.filter (Precedes i ·) := by
    rw [List.filter_filter]
    apply List.filter_congr
    intro k _
    by_cases hk : Precedes i k
    . simp [hk, hk.asymm, tied_iff]
    . by_cases hk' : Precedes k i
      . simp [hk, hk']
      . simp [hk, hk', tied_iff]
  rw [hties, hlater] at hrest
  exact (hrest.append_left _).trans (List.filter_append_perm _ is)

theorem noLater_parts {low ties high : List Interval} (hlow : low.Pairwise NoLater) (hhigh : high.Pairwise NoLater)
    (hl : ∀ k ∈ low, Precedes k i) (ht : ∀ k ∈ ties, Tied k i) (hh : ∀ k ∈ high, Precedes i k) :
    (low ++ (ties ++ high)).Pairwise NoLater := by
  have hties : ∀ k ∈ ties, NoLater i k ∧ NoLater k i := fun k hk => ⟨(ht k hk).symm.noLater, (ht k hk).noLater⟩
  rw [List.pairwise_append, List.pairwise_append]
  refine ⟨hlow, ⟨List.pairwise_of_forall_mem_list fun k hk l hl => (hties k hk).2.trans (hties l hl).1, hhigh, ?_⟩, ?_⟩
  . intro k hk l hl
    exact (hties k hk).2.trans (hh l hl).noLater
  . intro k hk l hl'
    apply (hl k hk).noLater.trans
    rw [List.mem_append] at hl'
    cases hl' with
    | inl hl' => exact (hties l hl').1
    | inr hl' => exact (hh l hl').noLater

/--
The intervals can be sorted around two that are tied: first what comes before them, then all that is tied with them, in
any order, then what comes after them.
-/
theorem exists_arrangements (hi : i ∈ is) (hj : j ∈ is) (hne : i ≠ j) (htied : Tied i j) :
    ∃ rest high : List Interval, (∀ k ∈ high, k ∈ is ∧ Precedes i k) ∧ (∀ k ∈ is, Precedes i k → k ∈ high) ∧
      ∀ low ties : List Interval, low.Perm (is.filter (Precedes · i)) → low.Pairwise NoLater →
        ties.Perm (i :: j :: rest) → (low ++ (ties ++ high)).Perm is ∧ (low ++ (ties ++ high)).Pairwise NoLater := by
  have hmem : ∀ {k}, k ∈ sorted (is.filter (Precedes i ·)) ↔ k ∈ is ∧ Precedes i k := by
    intro k
    rw [(sorted_perm _).mem_iff, List.mem_filter, decide_eq_true_eq]
  have hi' : i ∈ is.filter (Tied · i) := List.mem_filter.2 ⟨hi, by simp [Tied]⟩
  have hj' : j ∈ (is.filter (Tied · i)).erase i :=
    (List.mem_erase_of_ne hne.symm).2 (List.mem_filter.2 ⟨hj, by simpa using htied.symm⟩)
  have hties : (is.filter (Tied · i)).Perm (i :: j :: ((is.filter (Tied · i)).erase i).erase j) :=
    (List.perm_cons_erase hi').trans ((List.perm_cons_erase hj').cons i)
  refine ⟨((is.filter (Tied · i)).erase i).erase j, sorted (is.filter (Precedes i ·)), fun k hk => hmem.1 hk,
    fun k hk hik => hmem.2 ⟨hk, hik⟩, ?_⟩
  intro low ties hlow hsorted hperm
  have hperm := hperm.trans hties.symm
  constructor
  . exact (hlow.append (hperm.append (sorted_perm _))).trans (parts_perm is i)
  . apply noLater_parts hsorted (stablySorted_sorted _).ordered
    . intro k hk
      simpa using (List.mem_filter.1 (hlow.mem_iff.1 hk)).2
    . intro k hk
      simpa using (List.mem_filter.1 (hperm.mem_iff.1 hk)).2
    . intro k hk
      exact (hmem.1 hk).2

/--
Behind two tied intervals that can be exchanged, what comes next starts with them, if anything is to follow.
-/
theorem Exchangeable.followed (h : Exchangeable pre i j post) (htied : Tied i j)
    (hpost : ∀ k ∈ post, k ∈ is ∧ Precedes i k) (hafter : ∀ k ∈ is, Precedes i k → k ∈ post)
    (hfollowed : i.endsAt = none ∨ ∃ k ∈ is, i.startsAt < k.startsAt) :
    ∃ l ∈ is, l.startsAt = i.startsAt ∧ i.createdAt < l.createdAt := by
  have hfirst := h.first
  have hsecond := h.second
  unfold Settled at hfirst hsecond
  cases post with
  | nil =>
    rcases hfollowed with hopen | ⟨k, hk, hlt⟩
    . rw [hopen] at hfirst
      cases hfirst
    . cases hafter k hk (.inl hlt)
  | cons k post =>
    have hstart : k.startsAt = i.startsAt := by
      rcases hfirst with hopen | hzero
      . rcases hsecond with hopen' | hzero
        . exact absurd ⟨hopen, hopen'⟩ h.apart
        . exact hzero.2.trans htied.1.symm
      . exact hzero.2
    obtain ⟨hk, hlt | hcreated⟩ := hpost k List.mem_cons_self
    . simp only [Instant.lt_def, Instant.slot_inj] at *
      omega
    . exact ⟨k, hk, hstart, hcreated.2⟩

section Free

variable (hids : (is.map (·.id)).Nodup) (hfree : ∀ js, js.Perm is → audit js = audit is)

include hids hfree

theorem exchangeable_of_free (hperm : (pre ++ i :: j :: post).Perm is)
    (hsorted : (pre ++ i :: j :: post).Pairwise NoLater) (htied : Tied i j) : Exchangeable pre i j post := by
  have hperm' : (pre ++ j :: i :: post).Perm is := ((List.Perm.swap i j post).append_left pre).trans hperm
  apply (audit_swap_iff ((hperm.map _).nodup_iff.2 hids) hsorted htied).1
  rw [hfree _ hperm, hfree _ hperm']

/--
Tied intervals are looked at where they come first among those that they are tied with, and where they come last.
-/
theorem tieHidden_of_free (hi : i ∈ is) (hj : j ∈ is) (hne : i ≠ j) (htied : Tied i j) : TieHidden is i j := by
  obtain ⟨rest, high, hhigh, hafter, harr⟩ := exists_arrangements hi hj hne htied
  have hlow := sorted_perm (is.filter (Precedes · i))
  have hsorted : (sorted (is.filter (Precedes · i))).Pairwise NoLater := (stablySorted_sorted _).ordered
  generalize sorted (is.filter (Precedes · i)) = low at hlow hsorted
  obtain ⟨hperm, hnoLater⟩ := harr low (rest ++ [i, j]) hlow hsorted List.perm_append_comm
  rw [List.append_assoc rest, ← List.append_assoc low] at hperm hnoLater
  have hlast := exchangeable_of_free hids hfree hperm hnoLater htied
  refine ⟨hlast.first.momentary, hlast.apart, ?_, ?_⟩
  . intro k hk hki hbetween
    have hlow' : (low.erase k ++ [k]).Perm low :=
      List.perm_append_comm.trans (List.perm_cons_erase (hlow.mem_iff.2 (by simp [hk, hki]))).symm
    have hsorted' : (low.erase k ++ [k]).Pairwise NoLater := by
      rw [List.pairwise_append]
      refine ⟨hsorted.sublist List.erase_sublist, List.pairwise_singleton _ _, ?_⟩
      intro l hl m hm
      rw [List.mem_singleton.1 hm, noLater_iff]
      have hmem := List.mem_filter.1 (hlow.mem_iff.1 (List.mem_of_mem_erase hl))
      intro hkl
      exact hbetween l hmem.1 ⟨hkl, by simpa using hmem.2⟩
    obtain ⟨hperm, hnoLater⟩ := harr _ (i :: j :: rest) (hlow'.trans hlow) hsorted' (.refl _)
    have hfirst := exchangeable_of_free hids hfree hperm hnoLater htied
    exact hfirst.before k (by simp)
  . exact hlast.followed htied hhigh hafter

end Free

/--
The order in which intervals are given does not matter to the audit exactly when their ties are hidden.
-/
theorem audit_order_iff (hids : (is.map (·.id)).Nodup) : (∀ js, js.Perm is → audit js = audit is) ↔ TiesHidden is := by
  constructor
  . intro hfree i hi j hj hne htied
    exact tieHidden_of_free hids hfree hi hj hne htied
  . intro h js hjs
    have hperm : (sorted js).Perm is := (sorted_perm js).trans hjs
    have heq := audit_eq_of_sorted h hids [] (sorted js) (sorted is) hperm (stablySorted_sorted js).ordered
      (stablySorted_sorted is).ordered (hperm.trans (sorted_perm is).symm)
    rwa [List.nil_append, List.nil_append, audit_sorted, audit_sorted] at heq

/--
Two intervals of one creation, of which the first ends at once and the second is open.
-/
def twins : Interval × Interval :=
  let first : Interval := {
    id := .ofSerial 11
    monitorId := .ofSerial 1
    statusId := .ofSerial 2
    startsAt := .ofNanos 5000
    endsAt := some (.ofNanos 5000)
    createdAt := .ofNanos 5000
    rootCause := none
    createdBy := none }
  (first, { first with id := .ofSerial 12, endsAt := none })

/--
Nothing is wrong with them in one order, and in the other one the open interval is not the last.
-/
theorem audit_twins :
    ([twins.2, twins.1].map (·.id)).Nodup ∧ [twins.1, twins.2].Perm [twins.2, twins.1] ∧
      audit [twins.1, twins.2] =
        { intervalCount := 2, openInterval := some (.ofSerial 12), violations := [] } ∧
      audit [twins.2, twins.1] =
        { intervalCount := 2, openInterval := some (.ofSerial 12), violations := [.openNotLast (.ofSerial 12)] } := by
  refine ⟨by decide, List.Perm.swap _ _ _, ?_, ?_⟩
  . rw [audit_of_noLater (by decide)]
    decide
  . rw [audit_of_noLater (by decide)]
    decide

/--
An interval, two of no length where it ends, and the current one, which is created after them.
-/
def passing : List Interval :=
  [{ twins.1 with id := .ofSerial 10, startsAt := .ofNanos 1000, createdAt := .ofNanos 1000 }, twins.1,
    { twins.1 with id := .ofSerial 13 }, { twins.2 with createdAt := .ofNanos 6000 }]

theorem audit_order_iff_passing :
    (passing.map (·.id)).Nodup ∧ TiesHidden passing ∧ ∀ js, js.Perm passing → audit js = audit passing :=
  ⟨by decide, by decide, (audit_order_iff (by decide)).2 (by decide)⟩

end Interval

end StatusTimeline
