import StatusTimeline.Proofs.Store.Sorted

/-!
This module contains what a purge removes from a store, whatever the store holds. From a timeline without violations it
takes the oldest intervals, so that what is left has no violations either and keeps the open interval. One purge after
another removes what a single one up to the later cutoff removes.
-/

namespace StatusTimeline

theorem Instant.lt_latest_iff {a b t : Instant} : t < a.latest b ↔ t < a ∨ t < b := by
  unfold latest
  split <;> simp only [lt_def, le_def] at * <;> omega

namespace Row

theorem endedBefore_eq (cutoff : Instant) (r : Row) :
    r.endedBefore cutoff = decide (∃ e ∈ r.interval.endsAt, e < cutoff) := by
  unfold endedBefore
  cases r.interval.endsAt <;> simp

theorem endedBefore_latest (c c' : Instant) (r : Row) :
    r.endedBefore (c.latest c') = (r.endedBefore c || r.endedBefore c') := by
  unfold endedBefore
  cases r.interval.endsAt <;> simp [Instant.lt_latest_iff]

end Row

namespace Store

variable (s : Store) (c c' : Instant) (monitor : Uuid)

theorem purge_fst : (s.purge c).1 = s.rows.countP (·.endedBefore c) := by
  have hsplit := s.rows.length_eq_countP_add_countP (·.endedBefore c)
  simp only [purge, ← List.countP_eq_length_filter]
  simp only [Bool.not_eq_true, Bool.decide_eq_false] at hsplit
  omega

theorem timeline_purge :
    Row.timeline monitor (s.purge c).2.rows =
      (Row.timeline monitor s.rows).filter fun i => !i.endedBefore c :=
  Row.timeline_filter monitor s.rows fun i => !i.endedBefore c

theorem purge_purge_snd : ((s.purge c).2.purge c').2 = (s.purge (c.latest c')).2 := by
  simp only [purge, List.filter_filter, Row.endedBefore_latest, Bool.not_or, Bool.and_comm]

theorem purge_purge_fst : (s.purge c).1 + ((s.purge c).2.purge c').1 = (s.purge (c.latest c')).1 := by
  simp only [purge_fst]
  -- a row that the later cutoff takes is taken by the first purge, or stays and is taken by the second
  rw [s.rows.countP_eq_countP_filter_add (·.endedBefore (c.latest c')) (·.endedBefore c)]
  simp only [purge, List.countP_filter, Row.endedBefore_latest]
  congr 1
  . apply List.countP_congr
    intro r _
    cases r.endedBefore c <;> simp
  . apply List.countP_congr
    intro r _
    cases r.endedBefore c <;> simp

theorem purge_joined (hne : Row.timeline monitor s.rows ≠ [])
    (hj : Interval.Joined none (Row.timeline monitor s.rows)) :
    ∃ gone kept i, (∀ j ∈ gone, j.endedBefore c = true) ∧
      Row.timeline monitor s.rows = gone ++ (kept ++ [i]) ∧
      Row.timeline monitor (s.purge c).2.rows = kept ++ [i] := by
  have hleft := hj.filter_ne_nil (c := c) hne
  obtain ⟨gone, hgone⟩ := hj.filter_suffix (c := c) (Row.timeline_startOrdered monitor s.rows)
  rw [← timeline_purge] at hleft hgone
  obtain ⟨kept, i, hkept⟩ := (List.eq_nil_or_concat _).resolve_left hleft
  rw [List.concat_eq_append] at hkept
  refine ⟨gone, kept, i, ?_, by rw [← hgone, hkept], hkept⟩
  -- what is left is filtered already, so that no more of it is found in front
  have hnone : gone.filter (fun j => !j.endedBefore c) = [] := by
    have hfilter := timeline_purge s c monitor
    rw [← hgone, List.filter_append, timeline_purge, List.filter_filter] at hfilter
    simpa using hfilter
  intro j hj
  simpa using List.filter_eq_nil_iff.1 hnone j hj

/--
A purge removes exactly the intervals that are closed and ended before the cutoff, and tells their number. Of a monitor
without violations these are the first ones of the timeline, and what stays ends with the same open interval and
has no violations either. Two purges remove what one purge with the later of the two cutoffs removes.
-/
theorem purge_exact (s : Store) (c : Instant) :
    (s.purge c).2 = { s with rows := s.rows.filter fun r => ¬ ∃ e ∈ r.interval.endsAt, e < c } ∧
    (s.purge c).1 = s.rows.countP (fun r => ∃ e ∈ r.interval.endsAt, e < c) ∧
    (∀ monitor, Row.timeline monitor s.rows ≠ [] → (audit (Row.timeline monitor s.rows)).violations = [] →
      (∃ gone, (∀ i ∈ gone, ∃ e ∈ i.endsAt, e < c) ∧
        Row.timeline monitor s.rows = gone ++ Row.timeline monitor (s.purge c).2.rows) ∧
      Row.timeline monitor (s.purge c).2.rows ≠ [] ∧
      (audit (Row.timeline monitor (s.purge c).2.rows)).violations = [] ∧
      ∃ i, (Row.timeline monitor s.rows).filter (·.isOpen) = [i] ∧
        (Row.timeline monitor (s.purge c).2.rows).filter (·.isOpen) = [i]) ∧
    ∀ c', ((s.purge c).2.purge c').2 = (s.purge (c.latest c')).2 ∧
      (s.purge c).1 + ((s.purge c).2.purge c').1 = (s.purge (c.latest c')).1 := by
  refine ⟨?_, ?_, ?_, fun c' => ⟨s.purge_purge_snd c c', s.purge_purge_fst c c'⟩⟩
  . simp only [purge, Row.endedBefore_eq, decide_not]
  . rw [purge_fst]
    simp only [Row.endedBefore_eq]
  . intro monitor hne haudit
    rw [Row.audit_timeline_iff] at haudit ⊢
    obtain ⟨gone, kept, i, hended, htimeline, hpurged⟩ := s.purge_joined c monitor hne haudit
    rw [htimeline, ← List.append_assoc] at haudit
    rw [hpurged, htimeline]
    have hleft : Interval.Joined none (kept ++ [i]) := by
      rw [List.append_assoc] at haudit
      exact haudit.of_suffix (List.suffix_append ..)
    refine ⟨⟨gone, ?_, rfl⟩, by simp, hleft, i, ?_, hleft.filter_isOpen⟩
    . intro j hj
      simpa using Interval.endedBefore_iff.1 (hended j hj)
    . rw [← List.append_assoc]
      exact haudit.filter_isOpen

/--
The timeline of the first monitor has no violations, and one of its intervals has no length. That of the second one
has no open interval.
-/
def mixed : Store :=
  let row (seq monitor : Nat) (start : Int) (endsAt : Option Int) : Row := {
    seq
    interval := {
      id := .ofSerial (10 + seq)
      monitorId := .ofSerial monitor
      statusId := .ofSerial 3
      startsAt := .ofNanos start
      endsAt := endsAt.map .ofNanos
      createdAt := .ofNanos (1000 * seq)
      rootCause := none
      createdBy := none } }
  { rows := [row 1 1 1000 (some 2000), row 2 2 1000 (some 3000), row 3 1 2000 (some 2000), row 4 1 2000 none]
    lastSeq := 4
    lastCreatedAt := some (.ofNanos 4000) }

theorem timeline_mixed :
    Row.timeline (.ofSerial 1) mixed.rows = (Row.ofMonitor (.ofSerial 1) mixed.rows).map (·.interval) := by
  unfold Row.timeline
  rw [List.mergeSort_of_pairwise (by decide)]

theorem purge_exact_mixed :
    Row.timeline (.ofSerial 1) mixed.rows ≠ [] ∧
      (audit (Row.timeline (.ofSerial 1) mixed.rows)).violations = [] ∧
      (mixed.purge (.ofNanos 2500)).1 = 2 ∧ (mixed.purge (.ofNanos 3500)).1 = 3 ∧
      (audit (Row.timeline (.ofSerial 1) (mixed.purge (.ofNanos 2500)).2.rows)).violations = [] ∧
      ((mixed.purge (.ofNanos 2500)).2.purge (.ofNanos 3500)).1 = 1 := by
  have hne : Row.timeline (.ofSerial 1) mixed.rows ≠ [] := by
    rw [timeline_mixed]
    decide
  have haudit : (audit (Row.timeline (.ofSerial 1) mixed.rows)).violations = [] := by
    rw [Row.audit_timeline_iff, timeline_mixed]
    exact ⟨rfl, rfl, rfl, trivial⟩
  obtain ⟨_, _, hmonitor, hagain⟩ := purge_exact mixed (.ofNanos 2500)
  have hfirst : (mixed.purge (.ofNanos 2500)).1 = 2 := by decide +kernel
  have hboth : (mixed.purge (.ofNanos 3500)).1 = 3 := by decide +kernel
  have hsum := (hagain (.ofNanos 3500)).2
  rw [hfirst, show (Instant.ofNanos 2500).latest (.ofNanos 3500) = .ofNanos 3500 by decide, hboth] at hsum
  exact ⟨hne, haudit, hfirst, hboth, (hmonitor (.ofSerial 1) hne haudit).2.2.1, by omega⟩

end Store

end StatusTimeline
