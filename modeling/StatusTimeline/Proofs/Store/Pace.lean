import StatusTimeline.Proofs.Store.Consistent

/-!
This module contains how far a store's creation times get ahead of the clock: by a microsecond for each interval. As long
as the clock stays that far from the end of the calendar, there is a creation time to give.
-/

namespace StatusTimeline

namespace Instant

variable {a b t limit : Instant}

theorem toNanos_le (ha : a.isLeap = false) (hb : b.isLeap = false) (h : a ≤ b) : a.toNanos ≤ b.toNanos := by
  rw [isLeap_eq_false] at ha hb
  have ha₀ := a.nano_nonneg
  have hb₀ := b.nano_nonneg
  rw [le_def, slot_eq a, slot_eq b] at h
  simp only [toNanos]
  omega

theorem nextMicro_of_not_leap (h : t.isLeap = false) : t.nextMicro = ofNanos (t.toNanos + 1000) :=
  shift_of_not_leap h 1000

theorem day_ofNanos (n : Int) : (ofNanos n).day = n / 86400000000000 := by
  simp only [day, second, slot_ofNanos]
  omega

theorem isLeap_of_isReadable (h : t.isReadable = true) : t.isLeap = false := by
  simp only [isReadable, Bool.and_eq_true, Bool.not_eq_true'] at h
  exact h.2

theorem toNanos_nonneg_of_isReadable (h : t.isReadable = true) : 0 ≤ t.toNanos := by
  simp only [isReadable, Bool.and_eq_true, decide_eq_true_eq] at h
  have h₀ := t.nano_nonneg
  simp only [toNanos]
  omega

/--
All instants from 1970 up to one of the calendar are in it, too.
-/
theorem inCalendar_of_le {m n : Int} (hm : 0 ≤ m) (hmn : m ≤ n) (h : (ofNanos n).inCalendar = true) :
    (ofNanos m).inCalendar = true := by
  simp only [inCalendar, day_ofNanos, Date.firstDay, Date.lastDay, Bool.and_eq_true, decide_eq_true_eq] at h ⊢
  omega

/--
A reading of the clock that is no later than `limit`, from where so many microseconds remain in the calendar.
-/
structure OnTime (limit : Instant) (k : Nat) (now : Instant) : Prop where
  plain : limit.isLeap = false
  room : (limit.shift (1000 * k)).inCalendar = true
  readable : now.isReadable = true
  early : now ≤ limit

end Instant

namespace Store

/--
The last creation time of a store, if it has given any, is no more than so many microseconds after `limit`.
-/
def Paced (s : Store) (limit : Instant) (n : Nat) : Prop :=
  ∀ last, s.lastCreatedAt = some last → last.isLeap = false ∧ last.toNanos ≤ limit.toNanos + 1000 * n

variable {s s' : Store} {limit now : Instant} {n k : Nat}

theorem paced_empty (limit : Instant) : Paced {} limit 0 := by
  intro last hlast
  cases hlast

theorem nextCreatedAt_paced (h : s.Paced limit n) (ht : limit.OnTime k now) :
    (s.nextCreatedAt now).isLeap = false ∧ 0 ≤ (s.nextCreatedAt now).toNanos ∧
      (s.nextCreatedAt now).toNanos ≤ limit.toNanos + 1000 * (n + 1 : Nat) := by
  have hplain := Instant.isLeap_of_isReadable ht.readable
  have hnonneg := Instant.toNanos_nonneg_of_isReadable ht.readable
  have hle := Instant.toNanos_le hplain ht.plain ht.early
  unfold nextCreatedAt
  split
  . next last hlast =>
    obtain ⟨hlastPlain, hlastLe⟩ := h last hlast
    split
    . next hnow =>
      have hafter := Instant.toNanos_le hplain hlastPlain hnow
      rw [Instant.nextMicro_of_not_leap hlastPlain, Instant.toNanos_ofNanos]
      exact ⟨Instant.isLeap_ofNanos _, by omega, by omega⟩
    . exact ⟨hplain, hnonneg, by omega⟩
  . exact ⟨hplain, hnonneg, by omega⟩

theorem Paced.next (h : s.Paced limit n) (ht : limit.OnTime k now)
    (hlast : s'.lastCreatedAt = s.lastCreatedAt ∨ s'.lastCreatedAt = some (s.nextCreatedAt now)) :
    s'.Paced limit (n + 1) := by
  intro last hs'
  rcases hlast with heq | heq
  . obtain ⟨hplain, hle⟩ := h last (heq.symm.trans hs')
    exact ⟨hplain, by omega⟩
  . obtain ⟨hplain, _, hle⟩ := nextCreatedAt_paced h ht
    rw [heq] at hs'
    cases hs'
    exact ⟨hplain, hle⟩

theorem Paced.hasTime (h : s.Paced limit n) (ht : limit.OnTime k now) (hn : n < k) : s.hasTime now = true := by
  obtain ⟨hplain, hnonneg, hle⟩ := nextCreatedAt_paced h ht
  have hroom := ht.room
  rw [Instant.shift_of_not_leap ht.plain] at hroom
  unfold Store.hasTime
  rw [ht.readable, Bool.true_and, ← Instant.ofNanos_toNanos hplain]
  exact Instant.inCalendar_of_le hnonneg (by omega) hroom

end Store

end StatusTimeline
