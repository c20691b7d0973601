import StatusTimeline.Text.Blank

/-!
This module contains what trimming does: it takes away the blanks at both ends of a text, all of them, and nothing else.
-/

namespace StatusTimeline

variable {cs ds raw text : List Char}

/--
A text trimmed: what is left has no blank at either end, and only blanks are gone.
-/
structure Trims (raw text : List Char) : Prop where
  split : ∃ before after, raw = before ++ text ++ after ∧ ∀ c ∈ before ++ after, isBlank c = true
  first : ∀ c ∈ text.head?, isBlank c = false
  last : ∀ c ∈ text.getLast?, isBlank c = false

theorem skipBlanks_append (h : ∀ c ∈ cs, isBlank c = true) : skipBlanks (cs ++ ds) = skipBlanks ds :=
  List.dropWhile_append_of_pos h

theorem skipBlanks_of_blank (h : ∀ c ∈ cs, isBlank c = true) : skipBlanks cs = [] := by
  rw [← List.append_nil cs, skipBlanks_append h, skipBlanks_nil]

theorem skipBlanks_of_head? (h : ∀ c ∈ cs.head?, isBlank c = false) : skipBlanks cs = cs := by
  cases cs with
  | nil => rfl
  | cons c cs =>
    have hc : ¬ isBlank c = true := by simp [h c rfl]
    exact List.dropWhile_cons_of_neg hc

theorem exists_skipBlanks (cs : List Char) : ∃ before, cs = before ++ skipBlanks cs ∧
    (∀ c ∈ before, isBlank c = true) ∧ ∀ c ∈ (skipBlanks cs).head?, isBlank c = false := by
  induction cs with
  | nil => exact ⟨[], rfl, by simp, by simp [skipBlanks]⟩
  | cons c cs ih =>
    cases hc : isBlank c with
    | true =>
      obtain ⟨before, hsplit, hblank, hfirst⟩ := ih
      have hskip : skipBlanks (c :: cs) = skipBlanks cs := List.dropWhile_cons_of_pos hc
      rw [hskip]
      refine ⟨c :: before, congrArg (c :: ·) hsplit, ?_, hfirst⟩
      rw [List.forall_mem_cons]
      exact ⟨hc, hblank⟩
    | false =>
      have hskip : skipBlanks (c :: cs) = c :: cs := skipBlanks_of_head? (by simp [hc])
      rw [hskip]
      exact ⟨[], rfl, by simp, by simp [hc]⟩

theorem trims_trimBlanks (raw : List Char) : Trims raw (trimBlanks raw) := by
  obtain ⟨before, hbefore, hblank, hfirst⟩ := exists_skipBlanks raw
  obtain ⟨after, hafter, hblank', hlast⟩ := exists_skipBlanks (skipBlanks raw).reverse
  have hsplit : skipBlanks raw = trimBlanks raw ++ after.reverse := by
    unfold trimBlanks
    rw [← List.reverse_append, ← hafter, List.reverse_reverse]
  constructor
  . refine ⟨before, after.reverse, ?_, ?_⟩
    . rw [List.append_assoc, ← hsplit]
      exact hbefore
    . intro c hc
      rw [List.mem_append, List.mem_reverse] at hc
      exact hc.elim (hblank c) (hblank' c)
  . intro c hc
    apply hfirst
    rw [hsplit, List.head?_append, hc]
    rfl
  . unfold trimBlanks
    rw [List.getLast?_reverse]
    exact hlast

theorem Trims.eq (h : Trims raw text) : trimBlanks raw = text := by
  obtain ⟨before, after, rfl, hblank⟩ := h.split
  rw [List.forall_mem_append] at hblank
  have hrest : skipBlanks (before ++ text ++ after) = skipBlanks (text ++ after) := by
    rw [List.append_assoc, skipBlanks_append hblank.1]
  unfold trimBlanks
  rw [hrest]
  by_cases hnil : text = []
  . rw [hnil, List.nil_append, skipBlanks_of_blank hblank.2]
    rfl
  . have hfirst : ∀ c ∈ (text ++ after).head?, isBlank c = false := by
      intro c hc
      obtain ⟨d, ds, rfl⟩ := List.exists_cons_of_ne_nil hnil
      exact h.first c hc
    have hlast : ∀ c ∈ text.reverse.head?, isBlank c = false := by
      rw [List.head?_reverse]
      exact h.last
    have hafter : ∀ c ∈ after.reverse, isBlank c = true := by
      intro c hc
      exact hblank.2 c (List.mem_reverse.1 hc)
    rw [skipBlanks_of_head? hfirst, List.reverse_append, skipBlanks_append hafter, skipBlanks_of_head? hlast,
      List.reverse_reverse]

theorem trims_iff : Trims raw text ↔ trimBlanks raw = text := by
  constructor
  . exact Trims.eq
  . rintro rfl
    exact trims_trimBlanks raw

end StatusTimeline
