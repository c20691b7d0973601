import StatusTimeline.Engine
import StatusTimeline.Proofs.Text.Digits

/-!
This module contains the proof that the text of an identifier is read as that identifier, so that identifiers are told
apart by their texts, and monitors by the keys of their locks.
-/

namespace StatusTimeline

namespace Uuid

theorem length_digits (u : Uuid) : u.digits.length = 32 := by
  simp [digits, fixedText, length_fixedDigits]

theorem mem_digits {u : Uuid} {c : Char} (h : c ∈ u.digits) : ∃ d < 16, c = digitChar d := by
  obtain ⟨d, hd, rfl⟩ := List.mem_map.1 h
  exact ⟨d, fixedDigits_lt (by decide) hd, rfl⟩

/--
The text of an identifier consists of digits and hyphens.
-/
theorem mem_chars {u : Uuid} {c : Char} (h : c ∈ u.chars) : c = '-' ∨ ∃ d < 16, c = digitChar d := by
  simp only [chars, grouped, List.mem_append, List.mem_cons] at h
  rcases h with (((h | rfl | h) | rfl | h) | rfl | h) | rfl | h
  . exact .inr (mem_digits (List.mem_of_mem_take h))
  . exact .inl rfl
  . exact .inr (mem_digits (List.mem_of_mem_drop (List.mem_of_mem_take h)))
  . exact .inl rfl
  . exact .inr (mem_digits (List.mem_of_mem_drop (List.mem_of_mem_take h)))
  . exact .inl rfl
  . exact .inr (mem_digits (List.mem_of_mem_drop (List.mem_of_mem_take h)))
  . exact .inl rfl
  . exact .inr (mem_digits (List.mem_of_mem_drop h))

/--
Without its hyphens a grouped text is what was grouped.
-/
theorem filter_grouped {cs : List Char} (h : ∀ c ∈ cs, c ≠ '-') : (grouped cs).filter (· ≠ '-') = cs := by
  have hkeep : ∀ {l : List Char}, l.Sublist cs → l.filter (· ≠ '-') = l := by
    intro l hl
    apply List.filter_eq_self.2
    intro c hc
    simpa using h c (hl.subset hc)
  have hstep : ∀ n, (cs.drop n).take 4 ++ cs.drop (n + 4) = cs.drop n := by
    intro n
    rw [← List.drop_drop]
    exact List.take_append_drop 4 _
  have htake : ∀ n, ((cs.drop n).take 4).filter (· ≠ '-') = (cs.drop n).take 4 := fun n =>
    hkeep ((List.take_sublist _ _).trans (List.drop_sublist _ _))
  unfold grouped
  simp only [List.filter_append, List.filter_cons, ne_eq, not_true_eq_false, decide_false, Bool.false_eq_true, if_false]
  simp only [ne_eq] at hkeep htake
  rw [hkeep (List.take_sublist _ _), htake 8, htake 12, htake 16, hkeep (List.drop_sublist _ _), List.append_assoc,
    List.append_assoc, List.append_assoc, hstep 16, hstep 12, hstep 8, List.take_append_drop]

theorem length_grouped {cs : List Char} (h : cs.length = 32) : (grouped cs).length = 36 := by
  simp [grouped, h]

theorem ofDigits?_digits (u : Uuid) : ofDigits? u.digits = some u := by
  have hlt : ∀ d ∈ fixedDigits 16 32 u.bits.toNat, d < 16 := fun d hd => fixedDigits_lt (by decide) hd
  unfold ofDigits?
  rw [if_pos u.length_digits]
  unfold digits fixedText
  rw [mapM_hexDigit? hlt, Option.map_some, ofDigits_fixedDigits 32 u.bits.isLt]
  simp

/--
The text of an identifier is read as that identifier.
-/
theorem ofText?_text (u : Uuid) : ofText? u.text = some u := by
  have hbare : (grouped u.digits).filter (· ≠ '-') = u.digits := by
    apply filter_grouped
    intro c hc
    obtain ⟨d, hd, rfl⟩ := mem_digits hc
    have hall : ∀ d < 16, digitChar d ≠ '-' := by decide
    exact hall d hd
  unfold ofText? text chars ofChars?
  rw [String.toList_ofList, length_grouped u.length_digits]
  show ofGrouped? (grouped u.digits) = _
  unfold ofGrouped?
  dsimp only
  rw [hbare, if_pos rfl, ofDigits?_digits]

theorem text_inj {u v : Uuid} (h : u.text = v.text) : u = v := by
  have hread := ofText?_text u
  rw [h, ofText?_text v] at hread
  exact (Option.some.inj hread).symm

end Uuid

theorem Engine.lockKey_inj {a b : Uuid} (h : lockKey a = lockKey b) : a = b := Uuid.text_inj h

end StatusTimeline
