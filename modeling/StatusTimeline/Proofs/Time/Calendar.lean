import StatusTimeline.Time.Calendar

/-!
This module contains the proof that the date of a day is a date of the calendar and names that day.
-/

namespace StatusTimeline

namespace Date

/--
A day as it lies in the calendar, counted from 1 March of the year 0: the group of four hundred years, the century in it,
the four years in that, the year in those, and the day of the year, which ends with February. Only the last year of four
has a leap day, and at the end of a century only the last century of the group.
-/
structure Parts (shifted group century four year day : Int) : Prop where
  sum : shifted = 146097 * group + 36524 * century + 1461 * four + 365 * year + day
  centuries : 0 ≤ century ∧ century ≤ 3
  fours : 0 ≤ four ∧ four ≤ 24
  years : 0 ≤ year ∧ year ≤ 3
  days : 0 ≤ day ∧ day ≤ 365
  leap : day = 365 → year = 3 ∧ (four = 24 → century = 3)

theorem exists_parts (shifted : Int) : ∃ group century four year day, Parts shifted group century four year day := by
  obtain ⟨group, n, hn₀, hn₁, hn⟩ : ∃ group n, 0 ≤ n ∧ n < 146097 ∧ shifted = 146097 * group + n :=
    ⟨shifted / 146097, shifted % 146097, by omega, by omega, by omega⟩
  obtain ⟨century, m, hc, hm₀, hm₁, hm⟩ : ∃ century m, (0 ≤ century ∧ century ≤ 3) ∧ 0 ≤ m ∧
      (m < 36524 ∨ (m = 36524 ∧ century = 3)) ∧ n = 36524 * century + m :=
    ⟨min 3 (n / 36524), n - 36524 * min 3 (n / 36524), by omega, by omega, by omega, by omega⟩
  obtain ⟨four, k, hf, hk₀, hk₁, hk⟩ : ∃ four k, (0 ≤ four ∧ four ≤ 24) ∧ 0 ≤ k ∧ k < 1461 ∧ m = 1461 * four + k :=
    ⟨m / 1461, m % 1461, by omega, by omega, by omega, by omega⟩
  obtain ⟨year, day, hy, hd₀, hd₁, hd⟩ : ∃ year day, (0 ≤ year ∧ year ≤ 3) ∧ 0 ≤ day ∧
      (day < 365 ∨ (day = 365 ∧ year = 3)) ∧ k = 365 * year + day :=
    ⟨min 3 (k / 365), k - 365 * min 3 (k / 365), by omega, by omega, by omega, by omega⟩
  exact ⟨group, century, four, year, day, by omega, hc, hf, hy, ⟨hd₀, by omega⟩, by omega⟩

namespace Parts

variable {shifted group century four year day : Int}

theorem group_eq (h : Parts shifted group century four year day) : shifted / 146097 = group := by
  obtain ⟨hsum, hc, hf, hy, hd, hleap⟩ := h
  omega

theorem dayOfGroup_eq (h : Parts shifted group century four year day) :
    shifted % 146097 = 36524 * century + 1461 * four + 365 * year + day := by
  obtain ⟨hsum, hc, hf, hy, hd, hleap⟩ := h
  omega

/--
The year is found by leaving out the leap days, which come once in 1460, 36524 and 146096 days.
-/
theorem yearOfGroup_eq (h : Parts shifted group century four year day) {n : Int}
    (hn : n = 36524 * century + 1461 * four + 365 * year + day) :
    (n - n / 1460 + n / 36524 - n / 146096) / 365 = 100 * century + 4 * four + year := by
  obtain ⟨_, hc, hf, hy, hd, hleap⟩ := h
  by_cases hlast : day = 365 ∧ four = 24
  . -- the last day of the group
    obtain ⟨rfl, rfl⟩ := hlast
    obtain ⟨rfl, hcentury⟩ := hleap rfl
    rw [hn, hcentury rfl]
    decide
  . have hcentury : n / 36524 = century := by omega
    have hgroup : n / 146096 = 0 := by omega
    obtain ⟨passed, hpassed, hfour⟩ : ∃ passed, passed = (24 * century + four + 365 * year + day) / 1460 ∧
        n / 1460 = 25 * century + four + passed := ⟨_, rfl, by omega⟩
    have hday : 0 ≤ day - passed ∧ day - passed < 365 := by omega
    rw [hcentury, hgroup, hfour]
    omega

theorem dayOfYear_eq (h : Parts shifted group century four year day) :
    36524 * century + 1461 * four + 365 * year + day - (365 * (100 * century + 4 * four + year) +
      (100 * century + 4 * four + year) / 4 - (100 * century + 4 * four + year) / 100) = day := by
  obtain ⟨_, hc, hf, hy, hd, hleap⟩ := h
  omega

end Parts

/--
The date of a day of the year that begins in March.
-/
def ofDayOfYear (year day : Int) : Date :=
  let month := (5 * day + 2) / 153
  { year := if 10 ≤ month then year + 1 else year
    month := (if 10 ≤ month then month - 9 else month + 3).toNat
    day := (day - (153 * month + 2) / 5 + 1).toNat }

theorem ofDay_eq {n group century four year day : Int} (h : Parts (n + 719468) group century four year day) :
    ofDay n = ofDayOfYear (400 * group + 100 * century + 4 * four + year) day := by
  have hd := h.days
  unfold ofDay ofDayOfYear
  simp only [h.group_eq, h.dayOfGroup_eq, h.yearOfGroup_eq rfl, h.dayOfYear_eq]
  obtain ⟨month, hmonth⟩ : ∃ month, month = (5 * day + 2) / 153 := ⟨_, rfl⟩
  rw [← hmonth]
  have hrange : 0 ≤ month ∧ month ≤ 11 := by omega
  by_cases hlate : 10 ≤ month
  . have hearly : ¬ month < 10 := by omega
    have hnext : month - 9 ≤ 2 := by omega
    simp only [hlate, hearly, hnext, if_true, if_false, mk.injEq, and_true]
    omega
  . have hearly : month < 10 := by omega
    have hnext : ¬ month + 3 ≤ 2 := by omega
    simp only [hlate, hearly, hnext, if_true, if_false, mk.injEq, and_true]
    omega

/--
The months of a year that begins in March start on the days that they should.
-/
theorem toDay_ofDayOfYear {year day : Int} (hd : 0 ≤ day ∧ day ≤ 365) :
    (ofDayOfYear year day).toDay =
      year / 400 * 146097 + (year % 400 * 365 + year % 400 / 4 - year % 400 / 100 + day) - 719468 := by
  obtain ⟨month, hmonth⟩ : ∃ month, month = (5 * day + 2) / 153 := ⟨_, rfl⟩
  have hrange : 0 ≤ month ∧ month ≤ 11 := by omega
  have hstart : (153 * month + 2) / 5 ≤ day := by omega
  have hofMonth : ((day - (153 * month + 2) / 5 + 1).toNat : Int) = day - (153 * month + 2) / 5 + 1 := by omega
  unfold toDay ofDayOfYear
  simp only [← hmonth]
  by_cases hlate : 10 ≤ month
  . have hnext : (month - 9).toNat ≤ 2 := by omega
    have hagain : ((month - 9).toNat : Int) + 9 = month := by omega
    simp only [hlate, if_true, hnext, Int.add_sub_cancel, hagain, hofMonth]
    omega
  . have hnext : ¬ (month + 3).toNat ≤ 2 := by omega
    have hagain : ((month + 3).toNat : Int) - 3 = month := by omega
    simp only [hlate, if_false, hnext, hagain, hofMonth]
    omega

/--
The date of a day names that day.
-/
theorem toDay_ofDay (n : Int) : (ofDay n).toDay = n := by
  obtain ⟨group, century, four, year, day, h⟩ := exists_parts (n + 719468)
  rw [ofDay_eq h, toDay_ofDayOfYear h.days]
  obtain ⟨hsum, hc, hf, hy, _, _⟩ := h
  have hgroup : (400 * group + 100 * century + 4 * four + year) / 400 = group := by omega
  have hyear : (400 * group + 100 * century + 4 * four + year) % 400 = 100 * century + 4 * four + year := by omega
  rw [hgroup, hyear]
  omega

/--
Every month of a year that begins in March has the days that it should, and the last day of February is there in leap
years only.
-/
theorem day_ofDayOfYear {year day : Int} (hd : 0 ≤ day ∧ day ≤ 365) (hleap : day = 365 → isLeapYear (year + 1) = true) :
    1 ≤ (ofDayOfYear year day).month ∧ (ofDayOfYear year day).month ≤ 12 ∧ 1 ≤ (ofDayOfYear year day).day ∧
      (ofDayOfYear year day).day ≤ daysInMonth (ofDayOfYear year day).year (ofDayOfYear year day).month := by
  obtain ⟨month, hmonth⟩ : ∃ month, month = (5 * day + 2) / 153 := ⟨_, rfl⟩
  have hrange : 0 ≤ month ∧ month ≤ 11 := by omega
  unfold ofDayOfYear
  simp only [← hmonth]
  have hcases : month = 0 ∨ month = 1 ∨ month = 2 ∨ month = 3 ∨ month = 4 ∨ month = 5 ∨ month = 6 ∨ month = 7 ∨
      month = 8 ∨ month = 9 ∨ month = 10 ∨ month = 11 := by omega
  rcases hcases with rfl | rfl | rfl | rfl | rfl | rfl | rfl | rfl | rfl | rfl | rfl | rfl
  case inr.inr.inr.inr.inr.inr.inr.inr.inr.inr.inr =>
    refine ⟨by decide, by decide, by omega, ?_⟩
    show (day - (153 * 11 + 2) / 5 + 1).toNat ≤ if isLeapYear (year + 1) then 29 else 28
    split
    . omega
    . next hcommon =>
      have hshort : day ≠ 365 := fun hlast => hcommon (hleap hlast)
      omega
  all_goals
    refine ⟨by decide, by decide, by omega, ?_⟩
    simp only [daysInMonth, Int.reduceLE, if_true, if_false, Int.reduceAdd, Int.reduceSub, Int.reduceToNat]
    omega

theorem isValid_ofDay {n : Int} (hfirst : firstDay ≤ n) (hlast : n ≤ lastDay) : (ofDay n).isValid = true := by
  obtain ⟨group, century, four, year, day, h⟩ := exists_parts (n + 719468)
  rw [ofDay_eq h]
  obtain ⟨hsum, hc, hf, hy, hd, hleap⟩ := h
  obtain ⟨y, hyear⟩ : ∃ y, y = 400 * group + 100 * century + 4 * four + year := ⟨_, rfl⟩
  rw [← hyear]
  have hleapYear : day = 365 → isLeapYear (y + 1) = true := by
    intro hday
    obtain ⟨rfl, hcentury⟩ := hleap hday
    have hdivides : (y + 1) % 4 = 0 ∧ ((y + 1) % 100 ≠ 0 ∨ (y + 1) % 400 = 0) := by omega
    simpa [isLeapYear] using hdivides
  obtain ⟨hmonth₀, hmonth₁, hday₀, hday₁⟩ := day_ofDayOfYear hd hleapYear
  have hstart : n + 719468 = 365 * y + y / 4 - y / 100 + y / 400 + day := by omega
  have hrange : firstYear ≤ (ofDayOfYear y day).year ∧ (ofDayOfYear y day).year ≤ lastYear := by
    clear hsum hyear hday₀ hday₁ hmonth₀ hmonth₁
    unfold firstDay at hfirst
    unfold lastDay at hlast
    have hwithin : -262144 ≤ y ∧ y ≤ 262142 := by omega
    -- the calendar begins with January and ends with December
    have hbegin : y = -262144 → 306 ≤ day := by
      rintro rfl
      omega
    have hend : y = 262142 → day < 306 := by
      rintro rfl
      omega
    unfold ofDayOfYear firstYear lastYear
    dsimp only
    split <;> omega
  simp only [isValid, hrange.1, hrange.2, hmonth₀, hmonth₁, hday₀, hday₁, decide_true, Bool.and_self]

/--
The year of a day turns over with January, on the day 306 of the year that begins in March.
-/
theorem exists_year_ofDay (n : Int) : ∃ year day : Int, (0 ≤ day ∧ day ≤ 365) ∧
    n + 719468 = 365 * year + year / 4 - year / 100 + year / 400 + day ∧
      (ofDay n).year = if 306 ≤ day then year + 1 else year := by
  obtain ⟨group, century, four, year, day, h⟩ := exists_parts (n + 719468)
  have hd := h.days
  rw [ofDay_eq h]
  obtain ⟨hsum, hc, hf, hy, _, _⟩ := h
  refine ⟨400 * group + 100 * century + 4 * four + year, day, hd, by omega, ?_⟩
  have hmonth : 10 ≤ (5 * day + 2) / 153 ↔ 306 ≤ day := by omega
  simp only [ofDayOfYear, hmonth]

/--
The years 1970 to 9999 begin with the day from which days are counted, and lie within the calendar.
-/
theorem day_of_year {n : Int} (hfirst : 1970 ≤ (ofDay n).year) (hlast : (ofDay n).year ≤ 9999) :
    0 ≤ n ∧ n ≤ lastDay := by
  obtain ⟨year, day, hday, hn, hyear⟩ := exists_year_ofDay n
  rw [hyear] at hfirst hlast
  unfold lastDay
  split at hfirst <;> split at hlast <;> omega

theorem daysInMonth_le (year : Int) (month : Nat) : daysInMonth year month ≤ 31 := by
  unfold daysInMonth
  split
  . split <;> decide
  all_goals decide

theorem parts_of_isValid {d : Date} (h : d.isValid = true) :
    1 ≤ d.month ∧ d.month ≤ 12 ∧ 1 ≤ d.day ∧ d.day ≤ 31 := by
  simp only [isValid, Bool.and_eq_true, decide_eq_true_eq] at h
  exact ⟨h.1.1.1.2, h.1.1.2, h.1.2, Nat.le_trans h.2 (daysInMonth_le d.year d.month)⟩

end Date

end StatusTimeline
