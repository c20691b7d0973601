import StatusTimeline.Proofs.Text.Digits
import StatusTimeline.Proofs.Time.Calendar
import StatusTimeline.Time.Timestamp

/-!
This module contains the proof that the text of an instant is read as that instant, part by part: the year in any of its
forms, two digits each for what follows, the fraction and the offset.
-/

namespace StatusTimeline

theorem isBlank_digitChar {d : Nat} (h : d < 10) : isBlank (digitChar d) = false := by
  have hall : ∀ d < 10, isBlank (digitChar d) = false := by decide
  exact hall d h

theorem skipBlanks_cons {c : Char} (h : isBlank c = false) (cs : List Char) : skipBlanks (c :: cs) = c :: cs := by
  simp [skipBlanks, h]

namespace Instant

/--
An instant of the calendar. Leap seconds come at the end of a minute only.
-/
structure Proper (t : Instant) : Prop where
  inCalendar : t.inCalendar = true
  leap : t.isLeap = true → t.second % 60 = 59

instance (t : Instant) : Decidable t.Proper :=
  decidable_of_iff (t.inCalendar = true ∧ (t.isLeap = true → t.second % 60 = 59))
    ⟨fun h => ⟨h.1, h.2⟩, fun h => ⟨h.1, h.2⟩⟩

theorem takeChar_cons {c : Char} (h : isBlank c = false) (cs : List Char) :
    takeChar c (skipBlanks (c :: cs)) = some cs := by
  rw [skipBlanks_cons h]
  exact if_pos rfl

theorem takePart_fixedText {least most n : Nat} (hleast : least ≤ n) (hmost : n ≤ most) (htwo : most < 100)
    (rest : List Char) : takePart least most (fixedText 10 2 n ++ rest) = some (n, rest) := by
  have hskip : skipBlanks (fixedText 10 2 n ++ rest) = fixedText 10 2 n ++ rest :=
    skipBlanks_cons (isBlank_digitChar (Nat.mod_lt _ (by decide))) _
  have htake : takeNumber 2 (fixedText 10 2 n ++ rest) = some (n, rest) :=
    takeNumber_fixedText (by decide) (show n < 100 by omega) rest
  unfold takePart
  rw [hskip, htake]
  simp [hleast, hmost]

theorem takeYear_digitChar {d : Nat} (h : d < 10) (cs : List Char) :
    takeYear (digitChar d :: cs) = (takeNumber 4 (digitChar d :: cs)).map fun (n, rest) => ((n : Int), rest) := by
  have hskip := skipBlanks_cons (isBlank_digitChar h) cs
  unfold takeYear
  rw [hskip]
  have hminus : digitChar d ≠ '-' := by
    have hall : ∀ d < 10, digitChar d ≠ '-' := by decide
    exact hall d h
  have hplus : digitChar d ≠ '+' := by
    have hall : ∀ d < 10, digitChar d ≠ '+' := by decide
    exact hall d h
  split
  . next heq => exact absurd (List.cons.inj heq).1 hminus
  . next heq => exact absurd (List.cons.inj heq).1 hplus
  . rfl

/--
Any number of digits after a sign are taken.
-/
theorem takeNumber_paddedText (n : Nat) {rest : List Char} (hrest : ∀ c ∈ rest.head?, digit? c = none) :
    takeNumber (paddedText 4 n ++ rest).length (paddedText 4 n ++ rest) = some (n, rest) := by
  obtain ⟨ds, hds, hlt, hvalue, hne⟩ := paddedText_digits 4 n
  rw [hds, takeNumber, takeDigits_map hne hlt (by simp) (.inr hrest)]
  simp [hvalue]

theorem takeYear_minus (cs : List Char) :
    takeYear ('-' :: cs) = (takeNumber cs.length cs).map fun (n, rest) => (-(n : Int), rest) := rfl

theorem takeYear_plus (cs : List Char) :
    takeYear ('+' :: cs) = (takeNumber cs.length cs).map fun (n, rest) => ((n : Int), rest) := rfl

theorem takeYear_yearText (year : Int) {rest : List Char} (hrest : ∀ c ∈ rest.head?, digit? c = none) :
    takeYear (yearText year ++ rest) = some (year, rest) := by
  unfold yearText
  split
  . next hfour =>
    have htake : takeNumber 4 (fixedText 10 4 year.toNat ++ rest) = some (year.toNat, rest) :=
      takeNumber_fixedText (by decide) (show year.toNat < 10000 by omega) rest
    have hhead : takeYear (fixedText 10 4 year.toNat ++ rest) =
        (takeNumber 4 (fixedText 10 4 year.toNat ++ rest)).map fun (n, rest) => ((n : Int), rest) :=
      takeYear_digitChar (Nat.mod_lt _ (by decide)) _
    rw [hhead, htake]
    simp [Int.toNat_of_nonneg hfour.1]
  . split
    . next hneg =>
      have habs : -(year.natAbs : Int) = year := by omega
      rw [List.cons_append, takeYear_minus, takeNumber_paddedText _ hrest]
      simp only [Option.map_some, habs]
    . next hneg =>
      have habs : (year.natAbs : Int) = year := by omega
      rw [List.cons_append, takeYear_plus, takeNumber_paddedText _ hrest]
      simp only [Option.map_some, habs]

theorem takeFraction_fixedText {places n : Nat} (hplaces : 0 < places ∧ places ≤ 9) (hn : n < Nat.pow 10 places) :
    takeFraction ('.' :: fixedText 10 places n ++ ['Z']) = some (n * Nat.pow 10 (9 - places), ['Z']) := by
  have hlength := length_fixedDigits 10 places n
  have hne : fixedDigits 10 places n ≠ [] := by
    intro hnil
    rw [hnil] at hlength
    exact absurd hlength.symm (Nat.ne_of_gt hplaces.1)
  have htake : takeDigits 9 (fixedText 10 places n ++ ['Z']) = some (fixedDigits 10 places n, ['Z']) := by
    apply takeDigits_map hne (fun d hd => fixedDigits_lt (by decide) hd) (by rw [hlength]; exact hplaces.2)
    refine .inr ?_
    rintro c ⟨⟩
    rfl
  rw [List.cons_append, takeFraction, htake]
  simp only [Option.bind_eq_bind, Option.bind_some, ofDigits_fixedDigits places hn, hlength]
  rfl

theorem takeFraction_fractionText {n : Nat} (hn : n < 1000000000) :
    takeFraction (fractionText n ++ ['Z']) = some (n, ['Z']) := by
  unfold fractionText
  split
  . next hwhole => rw [hwhole]; rfl
  . split
    . next hmilli =>
      rw [takeFraction_fixedText (by decide) (show n / 1000000 < 1000 by omega)]
      have hn : n / 1000000 * Nat.pow 10 (9 - 3) = n := by
        show n / 1000000 * 1000000 = n
        omega
      rw [hn]
    . split
      . next hmicro =>
        rw [takeFraction_fixedText (by decide) (show n / 1000 < 1000000 by omega)]
        have hn : n / 1000 * Nat.pow 10 (9 - 6) = n := by
          show n / 1000 * 1000 = n
          omega
        rw [hn]
      . next hnano =>
        rw [takeFraction_fixedText (by decide) (show n < 1000000000 from hn)]
        exact congrArg (fun k => some (k, ['Z'])) (Nat.mul_one n)

theorem takeOffset_utc : takeOffset (skipBlanks ['Z']) = some (0, []) := by
  decide

/--
The text of an instant of the calendar is read as that instant.
-/
theorem ofText?_text {t : Instant} (h : t.Proper) : ofText? t.text = some t := by
  obtain ⟨hcalendar, hleap⟩ := h
  have hdays := hcalendar
  simp only [inCalendar, Bool.and_eq_true, decide_eq_true_eq] at hdays
  have hdate := Date.toDay_ofDay t.day
  have hvalid := Date.isValid_ofDay hdays.1 hdays.2
  obtain ⟨date, hdef⟩ : ∃ date, date = Date.ofDay t.day := ⟨_, rfl⟩
  obtain ⟨second, hsecond⟩ : ∃ second, second = t.secondOfDay.toNat := ⟨_, rfl⟩
  obtain ⟨nano, hnano⟩ : ∃ nano, nano = t.nano.toNat := ⟨_, rfl⟩
  rw [← hdef] at hdate hvalid
  have hparts : 1 ≤ date.month ∧ date.month ≤ 12 ∧ 1 ≤ date.day ∧ date.day ≤ 31 := by
    exact Date.parts_of_isValid hvalid
  have hofDay : (second : Int) = t.second % 86400 ∧ second < 86400 := by
    unfold secondOfDay at hsecond
    omega
  have hofSecond : (nano : Int) = t.nano ∧ nano < 2000000000 := by
    have := t.nano_nonneg
    have := t.nano_lt
    omega
  have hlast : 1000000000 ≤ nano → second % 60 = 59 := by
    intro hle
    have := hleap (isLeap_eq_true.2 (by omega))
    omega
  unfold ofText? text
  rw [String.toList_ofList]
  unfold chars
  simp only [← hdef, ← hsecond, ← hnano, List.append_assoc, List.cons_append]
  have hyear : ∀ cs, takeYear (yearText date.year ++ '-' :: cs) = some (date.year, '-' :: cs) := by
    intro cs
    apply takeYear_yearText
    rintro c ⟨⟩
    decide
  have hmonth := takePart_fixedText hparts.1 hparts.2.1 (by decide)
  have hday := takePart_fixedText hparts.2.2.1 hparts.2.2.2 (by decide)
  have hhour := takePart_fixedText (Nat.zero_le _) (show second / 3600 ≤ 23 by omega) (by decide)
  have hminute := takePart_fixedText (Nat.zero_le _) (show second / 60 % 60 ≤ 59 by omega) (by decide)
  have hsecondOf := takePart_fixedText (Nat.zero_le _) (show second % 60 + nano / 1000000000 ≤ 60 by omega) (by decide)
  have hfraction := takeFraction_fractionText (Nat.mod_lt nano (show 0 < 1000000000 by decide))
  have hdash : ∀ cs, takeChar '-' (skipBlanks ('-' :: cs)) = some cs := takeChar_cons (by decide)
  have hcolon : ∀ cs, takeChar ':' (skipBlanks (':' :: cs)) = some cs := takeChar_cons (by decide)
  refine Option.bind_eq_some_iff.2 ⟨_, hyear _, ?_⟩
  refine Option.bind_eq_some_iff.2 ⟨_, hdash _, ?_⟩
  refine Option.bind_eq_some_iff.2 ⟨_, hmonth _, ?_⟩
  refine Option.bind_eq_some_iff.2 ⟨_, hdash _, ?_⟩
  refine Option.bind_eq_some_iff.2 ⟨_, hday _, ?_⟩
  refine Option.bind_eq_some_iff.2 ⟨_, rfl, ?_⟩
  refine Option.bind_eq_some_iff.2 ⟨_, hhour _, ?_⟩
  refine Option.bind_eq_some_iff.2 ⟨_, hcolon _, ?_⟩
  refine Option.bind_eq_some_iff.2 ⟨_, hminute _, ?_⟩
  refine Option.bind_eq_some_iff.2 ⟨_, hcolon _, ?_⟩
  refine Option.bind_eq_some_iff.2 ⟨_, hsecondOf _, ?_⟩
  refine Option.bind_eq_some_iff.2 ⟨_, hfraction, ?_⟩
  refine Option.bind_eq_some_iff.2 ⟨_, takeOffset_utc, ?_⟩
  dsimp only
  have hleapDef : (if second % 60 + nano / 1000000000 = 60 then 1 else 0) = nano / 1000000000 := by
    split <;> omega
  rw [hleapDef]
  have hread : ofParts (date.toDay * 86400 + (second / 3600 * 3600 + second / 60 % 60 * 60 +
      (second % 60 + nano / 1000000000 - nano / 1000000000) : Nat) - 0)
      (nano % 1000000000 + nano / 1000000000 * 1000000000 : Nat) = t := by
    have hclock : second / 3600 * 3600 + second / 60 % 60 * 60 + (second % 60 + nano / 1000000000 - nano / 1000000000) =
        second := by omega
    have hwithin : nano % 1000000000 + nano / 1000000000 * 1000000000 = nano := by omega
    have hday : t.day * 86400 + second - 0 = t.second := by
      unfold day
      omega
    rw [hclock, hwithin, hdate, hday, hofSecond.1]
    exact ofParts_second_nano t
  rw [hread, hcalendar, hvalid]
  rfl

end Instant

end StatusTimeline
