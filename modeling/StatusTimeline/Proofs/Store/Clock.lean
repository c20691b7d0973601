import StatusTimeline.Proofs.Store.Creation
import StatusTimeline.Proofs.Store.Lineage
import StatusTimeline.Proofs.Store.Pace

/-!
This module contains the creation times that a store in memory gives over its whole life, to intervals that it removes
again as to all others. Whatever the clock reads, they increase strictly and are never behind it, and they get ahead of
it by no more than a microsecond for each insertion.
-/

namespace StatusTimeline

namespace Instant

variable {a b : Instant}

theorem le_ofNanos_iff (ha : a.isLeap = false) {n : Int} : a ≤ ofNanos n ↔ a.toNanos ≤ n := by
  constructor
  . intro h
    have hle := toNanos_le ha (isLeap_ofNanos n) h
    rwa [toNanos_ofNanos] at hle
  . intro h
    rw [isLeap_eq_false] at ha
    have hnonneg := a.nano_nonneg
    rw [le_def, slot_ofNanos, slot_eq a]
    simp only [toNanos] at h
    omega

theorem le_shift_iff (ha : a.isLeap = false) (hb : b.isLeap = false) (span : Int) :
    a ≤ b.shift span ↔ a.toNanos ≤ b.toNanos + span := by
  rw [shift_of_not_leap hb, le_ofNanos_iff ha]

end Instant

/--
The interval that a call has inserted, if it has inserted one.
-/
def StoreCall.inserted? : (c : StoreCall) → Except Error c.Answer → Option Interval
  | insert _, .ok created => some created
  | append _ _, .ok created => some created
  | _, _ => none

namespace Store

variable {s s' : Store} {stamp : Stamp} {c : StoreCall} {now limit : Instant} {made : List Insertion} {k : Nat}

/--
Where the clock is not read, it is at the last creation time or behind it.
-/
theorem nextCreatedAt_cases (s : Store) (now : Instant) : s.nextCreatedAt now = now ∨
    ∃ last, s.lastCreatedAt = some last ∧ now ≤ last ∧ s.nextCreatedAt now = last.nextMicro := by
  unfold nextCreatedAt
  cases s.lastCreatedAt with
  | none => exact .inl rfl
  | some last =>
    by_cases hnow : now ≤ last
    . exact .inr ⟨last, rfl, hnow, if_pos hnow⟩
    . exact .inl (if_neg hnow)

theorem le_nextCreatedAt (s : Store) (now : Instant) : now ≤ s.nextCreatedAt now := by
  rcases s.nextCreatedAt_cases now with heq | ⟨last, _, hnow, heq⟩
  . rw [heq]
    exact Int.le_refl _
  . have hlt := last.lt_nextMicro
    rw [heq]
    simp only [Instant.le_def, Instant.lt_def] at *
    omega

/--
A call inserts an interval with the next creation time, or leaves the last creation time as it is.
-/
theorem inserted?_cases (s : Store) (stamp : Stamp) (c : StoreCall) :
    (c.inserted? (s.answer stamp c).1 = none ∧ (s.answer stamp c).2.lastCreatedAt = s.lastCreatedAt) ∨
    ∃ created, c.inserted? (s.answer stamp c).1 = some created ∧ c.draws = true ∧
      created.createdAt = s.nextCreatedAt stamp.now ∧
      (s.answer stamp c).2.lastCreatedAt = some created.createdAt := by
  cases hc : c.draws with
  | false =>
    refine .inl ⟨?_, lastCreatedAt_of_not_draws hc⟩
    cases c <;> first | rfl | cases hc
  | true =>
    cases c with
    | insert new => exact .inr ⟨_, rfl, rfl, rfl, rfl⟩
    | append new close =>
      cases close with
      | none => exact .inr ⟨_, rfl, rfl, rfl, rfl⟩
      | some prior =>
        dsimp only [answer, append]
        split
        . exact .inr ⟨_, rfl, rfl, rfl, rfl⟩
        . exact .inl ⟨rfl, rfl⟩
    | _ => cases hc

/--
Answer calls one after the other, and list the insertions among them; none when one of them would need a creation time
where there is none.
-/
def live? : Store → List (Stamp × StoreCall) → Option (List Insertion × Store)
  | s, [] => some ([], s)
  | s, (stamp, c) :: calls =>
    if s.exhausts stamp.now c then none
    else do
      let (made, s') ← (s.answer stamp c).2.live? calls
      return ((c.inserted? (s.answer stamp c).1).toList.map (⟨stamp, ·⟩) ++ made, s')

/--
What holds of the insertions that a store has made since it was empty.
-/
structure Clocked (s : Store) (made : List Insertion) : Prop where
  last : s.lastCreatedAt = made.getLast?.map (·.created.createdAt)
  ordinary : ∀ x ∈ made, x.stamp.now.isLeap = false ∧ x.created.createdAt.isLeap = false
  increasing : made.Pairwise fun x y => x.created.createdAt < y.created.createdAt
  notBehind : ∀ x ∈ made, x.stamp.now ≤ x.created.createdAt
  notAhead : ∀ (n : Nat) (x : Insertion), made[n]? = some x → ∃ (j : Nat) (y : Insertion), j ≤ n ∧ made[j]? = some y ∧
    x.created.createdAt ≤ y.stamp.now.shift (1000 * (n - j : Nat))

theorem clocked_empty : Clocked {} [] where
  last := rfl
  ordinary := by simp
  increasing := .nil
  notBehind := by simp
  notAhead := by simp

namespace Clocked

theorem of_last (h : s.Clocked made) (hlast : s'.lastCreatedAt = s.lastCreatedAt) : s'.Clocked made where
  last := hlast.trans h.last
  ordinary := h.ordinary
  increasing := h.increasing
  notBehind := h.notBehind
  notAhead := h.notAhead

theorem le_last (h : s.Clocked made) {last : Instant} (hlast : s.lastCreatedAt = some last) :
    ∀ x ∈ made, x.created.createdAt ≤ last := by
  have heq := h.last
  have hincreasing := h.increasing
  rcases List.eq_nil_or_concat made with rfl | ⟨earlier, y, rfl⟩
  . simp
  . rw [List.concat_eq_append] at *
    rw [hlast, List.getLast?_concat, Option.map_some, Option.some.injEq] at heq
    rw [List.pairwise_append] at hincreasing
    rw [List.forall_mem_append, List.forall_mem_singleton, heq]
    refine ⟨?_, ?_⟩
    . intro x hx
      have hlt := hincreasing.2.2 x hx y List.mem_cons_self
      simp only [Instant.le_def, Instant.lt_def] at *
      omega
    . exact Int.le_refl _

theorem lt_next (h : s.Clocked made) : ∀ x ∈ made, x.created.createdAt < s.nextCreatedAt now := by
  intro x hx
  cases hlast : s.lastCreatedAt with
  | none =>
    have hnone := h.last.symm.trans hlast
    rw [Option.map_eq_none_iff, List.getLast?_eq_none_iff] at hnone
    rw [hnone] at hx
    cases hx
  | some last =>
    have hle := h.le_last hlast x hx
    have hlt := s.lt_nextCreatedAt now hlast
    simp only [Instant.le_def, Instant.lt_def] at *
    omega

/--
The last creation time is within the bound of the last insertion.
-/
theorem last_le (h : s.Clocked made) {last : Instant} (hlast : s.lastCreatedAt = some last) :
    last.isLeap = false ∧ ∃ j y, j < made.length ∧ made[j]? = some y ∧
      last.toNanos ≤ y.stamp.now.toNanos + 1000 * (made.length - 1 - j : Nat) := by
  have heq := h.last
  rw [hlast, List.getLast?_eq_getElem?] at heq
  obtain ⟨x, hx, hcreated⟩ := Option.map_eq_some_iff.1 heq.symm
  have hmem := List.mem_of_getElem? hx
  obtain ⟨j, y, hj, hy, hle⟩ := h.notAhead _ x hx
  have hlength : 0 < made.length := List.length_pos_of_mem hmem
  rw [Instant.le_shift_iff (h.ordinary x hmem).2 (h.ordinary y (List.mem_of_getElem? hy)).1, hcreated] at hle
  exact ⟨hcreated ▸ (h.ordinary x hmem).2, j, y, by omega, hy, hle⟩

theorem paced (h : s.Clocked made) (hlimit : limit.isLeap = false) (hearly : ∀ x ∈ made, x.stamp.now ≤ limit) :
    s.Paced limit made.length := by
  intro last hlast
  obtain ⟨hordinary, j, y, hj, hy, hle⟩ := h.last_le hlast
  have hmem := List.mem_of_getElem? hy
  have hreading := Instant.toNanos_le (h.ordinary y hmem).1 hlimit (hearly y hmem)
  exact ⟨hordinary, by omega⟩

/--
The next creation time is the reading of the clock, or it comes a microsecond after the last one, whose bound it takes
over with that microsecond.
-/
theorem next_le (h : s.Clocked made) (hnow : now.isLeap = false) :
    (s.nextCreatedAt now).isLeap = false ∧ ((s.nextCreatedAt now).toNanos ≤ now.toNanos ∨
      ∃ j y, j < made.length ∧ made[j]? = some y ∧
        (s.nextCreatedAt now).toNanos ≤ y.stamp.now.toNanos + 1000 * (made.length - j : Nat)) := by
  rcases s.nextCreatedAt_cases now with heq | ⟨last, hlast, _, heq⟩
  . rw [heq]
    exact ⟨hnow, .inl (Int.le_refl _)⟩
  . obtain ⟨hordinary, j, y, hj, hy, hle⟩ := h.last_le hlast
    rw [heq, Instant.nextMicro_of_not_leap hordinary, Instant.toNanos_ofNanos]
    exact ⟨Instant.isLeap_ofNanos _, .inr ⟨j, y, hj, hy, by omega⟩⟩

theorem insert (h : s.Clocked made) (hnow : stamp.now.isLeap = false) {created : Interval}
    (hcreated : created.createdAt = s.nextCreatedAt stamp.now) (hlast : s'.lastCreatedAt = some created.createdAt) :
    s'.Clocked (made ++ [⟨stamp, created⟩]) := by
  obtain ⟨hordinary, hbound⟩ := h.next_le hnow
  rw [← hcreated] at hordinary hbound
  constructor
  . rw [hlast, List.getLast?_concat]
    rfl
  . rw [List.forall_mem_append, List.forall_mem_singleton]
    exact ⟨h.ordinary, hnow, hordinary⟩
  . rw [List.pairwise_append]
    refine ⟨h.increasing, List.pairwise_singleton _ _, ?_⟩
    intro x hx y hy
    rw [List.mem_singleton.1 hy, hcreated]
    exact h.lt_next x hx
  . rw [List.forall_mem_append, List.forall_mem_singleton]
    refine ⟨h.notBehind, ?_⟩
    rw [hcreated]
    exact s.le_nextCreatedAt stamp.now
  . intro n x hx
    rcases Nat.lt_or_ge n made.length with hn | hn
    . rw [List.getElem?_append_left hn] at hx
      obtain ⟨j, y, hj, hy, hle⟩ := h.notAhead n x hx
      exact ⟨j, y, hj, by rw [List.getElem?_append_left (by omega), hy], hle⟩
    . have hlength := (List.getElem?_eq_some_iff.1 hx).1
      rw [List.length_append, List.length_singleton] at hlength
      obtain rfl : n = made.length := by omega
      rw [List.getElem?_concat_length, Option.some.injEq] at hx
      rw [← hx]
      rcases hbound with hle | ⟨j, y, hj, hy, hle⟩
      . refine ⟨made.length, _, Nat.le_refl _, List.getElem?_concat_length, ?_⟩
        rw [Instant.le_shift_iff hordinary hnow]
        omega
      . refine ⟨j, y, by omega, by rw [List.getElem?_append_left hj, hy], ?_⟩
        rw [Instant.le_shift_iff hordinary (h.ordinary y (List.mem_of_getElem? hy)).1]
        exact hle

/--
There is a creation time for a call that needs one, as long as the clock is not at the end of the calendar.
-/
theorem exhausts_eq_false (h : s.Clocked made) (hearly : ∀ x ∈ made, limit.OnTime k x.stamp.now)
    (hcall : c.draws = true → limit.OnTime k now ∧ made.length < k) : s.exhausts now c = false := by
  cases hc : c.draws with
  | false => exact exhausts_of_not_draws hc
  | true =>
    obtain ⟨ht, hk⟩ := hcall hc
    have hpaced := h.paced ht.plain fun x hx => (hearly x hx).early
    exact exhausts_of_hasTime (hpaced.hasTime ht hk)

theorem live? (h : s.Clocked made) (hearly : ∀ x ∈ made, limit.OnTime k x.stamp.now) {calls : List (Stamp × StoreCall)}
    (hcalls : ∀ x ∈ calls, x.2.draws = true → limit.OnTime k x.1.now)
    (hk : made.length + calls.countP (·.2.draws) ≤ k) :
    ∃ later s', s.live? calls = some (later, s') ∧ s'.Clocked (made ++ later) := by
  induction calls generalizing s made with
  | nil => exact ⟨[], s, rfl, by rwa [List.append_nil]⟩
  | cons x calls ih =>
    obtain ⟨stamp, c⟩ := x
    rw [List.forall_mem_cons] at hcalls
    rw [List.countP_cons] at hk
    have hexhausts : s.exhausts stamp.now c = false := by
      apply h.exhausts_eq_false hearly
      intro hc
      rw [if_pos hc] at hk
      exact ⟨hcalls.1 hc, by omega⟩
    unfold Store.live?
    rw [hexhausts]
    rcases s.inserted?_cases stamp c with ⟨hnone, hlast⟩ | ⟨created, hsome, hc, hcreated, hlast⟩
    . obtain ⟨later, s', hlive, hclocked⟩ := ih (h.of_last hlast) hearly hcalls.2 (by omega)
      exact ⟨later, s', by simp [hnone, hlive], hclocked⟩
    . have ht := hcalls.1 hc
      have hnext := h.insert (Instant.isLeap_of_isReadable ht.readable) hcreated hlast
      have hearly' : ∀ x ∈ made ++ [⟨stamp, created⟩], limit.OnTime k x.stamp.now := by
        rw [List.forall_mem_append, List.forall_mem_singleton]
        exact ⟨hearly, ht⟩
      have hk' : (made ++ [Insertion.mk stamp created]).length + calls.countP (·.2.draws) ≤ k := by
        rw [if_pos hc] at hk
        rw [List.length_append, List.length_singleton]
        omega
      obtain ⟨later, s', hlive, hclocked⟩ := ih hnext hearly' hcalls.2 hk'
      rw [List.append_assoc] at hclocked
      exact ⟨⟨stamp, created⟩ :: later, s', by simp [hsome, hlive], hclocked⟩

end Clocked

/--
Every insertion into a store gets a creation time, as long as the clock is not at the end of the calendar. These increase
strictly, whatever is removed in between, and none is before the reading of the clock at its insertion. It is at most the
reading at that or an earlier insertion and a microsecond for each insertion since then.
-/
theorem creation_clock {calls : List (Stamp × StoreCall)} {limit : Instant}
    (h : ∀ x ∈ calls, x.2.draws = true → limit.OnTime (calls.countP (·.2.draws)) x.1.now) :
    ∃ made s, live? {} calls = some (made, s) ∧
      (made.Pairwise fun x y => x.created.createdAt < y.created.createdAt) ∧
      (∀ x ∈ made, x.stamp.now ≤ x.created.createdAt) ∧
      ∀ (n : Nat) (x : Insertion), made[n]? = some x → ∃ (j : Nat) (y : Insertion), j ≤ n ∧ made[j]? = some y ∧
        x.created.createdAt ≤ y.stamp.now.shift (1000 * (n - j : Nat)) := by
  obtain ⟨made, s, hlive, hclocked⟩ := clocked_empty.live? (by simp) h (by simp)
  exact ⟨made, s, hlive, hclocked.increasing, hclocked.notBehind, hclocked.notAhead⟩

/--
Insertions for two monitors. The clock moves on by less than a microsecond, goes back, and comes up to the last creation
time again; in between the last interval and a closed one are removed, and a call fails.
-/
def erratic : List (Stamp × StoreCall) :=
  let stamp (serial : Nat) (nanos : Int) : Stamp := { id := .ofSerial serial, now := .ofNanos nanos }
  [(stamp 11 9000, .insert Table.changed),
    (stamp 12 9400, .append { Table.changed with monitorId := .ofSerial 7 } (some (.ofSerial 11))),
    (default, .delete (.ofSerial 12)),
    (stamp 13 5000, .insert Table.changed),
    (stamp 14 7000, .append Table.changed (some (.ofSerial 12))),
    (default, .purge (.ofNanos 20000)),
    (stamp 15 10400, .append Table.changed (some (.ofSerial 13)))]

theorem creation_clock_erratic :
    (∀ x ∈ erratic, x.2.draws = true → (Instant.ofNanos 20000).OnTime (erratic.countP (·.2.draws)) x.1.now) ∧
    ∃ made s, live? {} erratic = some (made, s) ∧
      made.map (fun x => (x.stamp.now, x.created.createdAt)) =
        [(.ofNanos 9000, .ofNanos 9000), (.ofNanos 9400, .ofNanos 9400), (.ofNanos 5000, .ofNanos 10400),
          (.ofNanos 10400, .ofNanos 11400)] ∧
      s.ids = [.ofSerial 13, .ofSerial 15] ∧
      (made.Pairwise fun x y => x.created.createdAt < y.created.createdAt) ∧
      ∀ (n : Nat) (x : Insertion), made[n]? = some x → ∃ (j : Nat) (y : Insertion), j ≤ n ∧ made[j]? = some y ∧
        x.created.createdAt ≤ y.stamp.now.shift (1000 * (n - j : Nat)) := by
  have htime : ∀ x ∈ erratic, x.2.draws = true →
      (Instant.ofNanos 20000).OnTime (erratic.countP (·.2.draws)) x.1.now := by
    intro x hx hdraws
    refine ⟨by decide, by decide, ?_, ?_⟩ <;> revert x hx hdraws <;> decide
  obtain ⟨made, s, hlive, hincreasing, _, hbound⟩ := creation_clock htime
  have hrun : (live? {} erratic).map (fun x => (x.1.map fun x => (x.stamp.now, x.created.createdAt), x.2.ids)) =
      some ([(.ofNanos 9000, .ofNanos 9000), (.ofNanos 9400, .ofNanos 9400), (.ofNanos 5000, .ofNanos 10400),
        (.ofNanos 10400, .ofNanos 11400)], [.ofSerial 13, .ofSerial 15]) := by
    decide +kernel
  rw [hlive, Option.map_some, Option.some.injEq, Prod.mk.injEq] at hrun
  exact ⟨htime, made, s, hlive, hrun.1, hrun.2, hincreasing, hbound⟩

end Store

end StatusTimeline
