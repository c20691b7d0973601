/-!
This module contains instants: points of time in UTC to the nanosecond, leap seconds included, their
order, and moving an instant by a span of nanoseconds.
-/

namespace StatusTimeline

/--
A point of time. Every second owns two billion slots: the first billion are its nanoseconds, the second
billion those of a leap second that follows it. Slots are counted from the start of 1970.
-/
structure Instant where
  slot : Int
deriving DecidableEq, Inhabited, Repr, Hashable

namespace Instant

instance : LT Instant := ⟨fun a b => a.slot < b.slot⟩

instance : LE Instant := ⟨fun a b => a.slot ≤ b.slot⟩

instance (a b : Instant) : Decidable (a < b) := inferInstanceAs (Decidable (a.slot < b.slot))

instance (a b : Instant) : Decidable (a ≤ b) := inferInstanceAs (Decidable (a.slot ≤ b.slot))

theorem lt_def {a b : Instant} : a < b ↔ a.slot < b.slot := Iff.rfl

theorem le_def {a b : Instant} : a ≤ b ↔ a.slot ≤ b.slot := Iff.rfl

theorem ext_slot {a b : Instant} (h : a.slot = b.slot) : a = b := by
  cases a; cases b; simp_all

theorem slot_inj {a b : Instant} : a = b ↔ a.slot = b.slot :=
  ⟨fun h => h ▸ rfl, ext_slot⟩

/--
The second an instant belongs to, counted from the start of 1970. A leap second belongs to the second
before it.
-/
def second (t : Instant) : Int := t.slot / 2000000000

/--
The nanoseconds since the start of the second, a billion or more in a leap second.
-/
def nano (t : Instant) : Int := t.slot % 2000000000

def ofParts (second nano : Int) : Instant := ⟨second * 2000000000 + nano⟩

def isLeap (t : Instant) : Bool := decide (1000000000 ≤ t.nano)

/--
The instant so many nanoseconds after the start of 1970, leap seconds not counted.
-/
def ofNanos (n : Int) : Instant := ofParts (n / 1000000000) (n % 1000000000)

/--
The nanoseconds since the start of 1970, in which a leap second counts as part of the second that
follows it.
-/
def toNanos (t : Instant) : Int := t.second * 1000000000 + t.nano

/--
Move an instant by a span of nanoseconds. Spans know no leap seconds: an instant that leaves a leap
second first joins an ordinary one, forwards the second before it and backwards the second after it,
while a span of less than a second that stays between the two only changes the nanoseconds.
-/
def shift (t : Instant) (span : Int) : Instant :=
  let seconds := span.tdiv 1000000000
  let nanos := span.tmod 1000000000
  if ¬ t.isLeap then ofNanos (t.toNanos + span)
  else if 0 < seconds ∨ (0 < nanos ∧ 2000000000 ≤ t.nano + nanos) then
    ofNanos (t.toNanos - 1000000000 + span)
  else if seconds < 0 then ofNanos (t.toNanos + span)
  else ⟨t.slot + nanos⟩

def nextMicro (t : Instant) : Instant := t.shift 1000

/--
Whether the clock of a machine can read this instant: it counts from the start of 1970 and knows no leap
seconds.
-/
def isReadable (t : Instant) : Bool := 0 ≤ t.second && !t.isLeap

def latest (a b : Instant) : Instant := if a ≤ b then b else a

theorem isLeap_eq_true {t : Instant} : t.isLeap = true ↔ 1000000000 ≤ t.nano := by simp [isLeap]

theorem isLeap_eq_false {t : Instant} : t.isLeap = false ↔ t.nano < 1000000000 := by simp [isLeap]

theorem second_ofParts {s n : Int} (h₀ : 0 ≤ n) (h₁ : n < 2000000000) : (ofParts s n).second = s := by
  simp only [second, ofParts]; omega

theorem nano_ofParts {s n : Int} (h₀ : 0 ≤ n) (h₁ : n < 2000000000) : (ofParts s n).nano = n := by
  simp only [nano, ofParts]; omega

theorem ofParts_second_nano (t : Instant) : ofParts t.second t.nano = t := by
  apply ext_slot; simp only [ofParts, second, nano]; omega

theorem nano_nonneg (t : Instant) : 0 ≤ t.nano := by simp only [nano]; omega

theorem nano_lt (t : Instant) : t.nano < 2000000000 := by simp only [nano]; omega

theorem slot_eq (t : Instant) : t.slot = t.second * 2000000000 + t.nano := by
  simp only [second, nano]; omega

theorem slot_ofNanos (n : Int) :
    (ofNanos n).slot = n / 1000000000 * 2000000000 + n % 1000000000 := rfl

theorem toNanos_ofNanos (n : Int) : (ofNanos n).toNanos = n := by
  simp only [ofNanos, toNanos, ofParts, second, nano]; omega

theorem isLeap_ofNanos (n : Int) : (ofNanos n).isLeap = false := by
  rw [isLeap_eq_false]; simp only [ofNanos, ofParts, nano]; omega

theorem ofNanos_toNanos {t : Instant} (h : t.isLeap = false) : ofNanos t.toNanos = t := by
  rw [isLeap_eq_false] at h
  have h₀ := t.nano_nonneg
  apply ext_slot
  rw [slot_ofNanos, slot_eq t, toNanos]; omega

/--
Instants that count nanoseconds from 1970 are ordered as these counts.
-/
theorem ofNanos_lt_ofNanos {m n : Int} : ofNanos m < ofNanos n ↔ m < n := by
  simp only [lt_def, slot_ofNanos]; omega

theorem shift_of_not_leap {t : Instant} (h : t.isLeap = false) (span : Int) :
    t.shift span = ofNanos (t.toNanos + span) := by
  simp [shift, h]

theorem lt_nextMicro (t : Instant) : t < t.nextMicro := by
  have h₀ := t.nano_nonneg
  have h₁ := t.nano_lt
  cases h : t.isLeap with
  | false =>
    rw [isLeap_eq_false] at h
    rw [nextMicro, shift_of_not_leap (by rwa [isLeap_eq_false]), lt_def, slot_ofNanos, slot_eq t,
      toNanos]
    omega
  | true =>
    have ht : Int.tdiv 1000 1000000000 = 0 := by decide
    have hm : Int.tmod 1000 1000000000 = 1000 := by decide
    simp only [nextMicro, shift, h, ht, hm]
    rw [isLeap_eq_true] at h
    by_cases hn : 2000000000 ≤ t.nano + 1000
    · have hs := slot_eq t
      simp [hn, lt_def, slot_ofNanos, toNanos]
      omega
    · simp only [hn, lt_def]
      simp only [not_true_eq_false, Int.lt_irrefl, and_false, or_self, if_false]
      omega

end Instant

end StatusTimeline
