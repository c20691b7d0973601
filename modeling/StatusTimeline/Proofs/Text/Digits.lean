import StatusTimeline.Text.Digits

/-!
This module contains the reading of digits that were written: with a fixed number of places, padded with zeros, or just as
many as a number needs.
-/

namespace StatusTimeline

theorem fixedDigits_lt {base : Nat} (hb : 0 < base) {places n d : Nat} (h : d ∈ fixedDigits base places n) :
    d < base := by
  induction places generalizing n with
  | zero => cases h
  | succ places ih =>
    rw [fixedDigits, List.mem_append, List.mem_singleton] at h
    cases h with
    | inl h => exact ih h
    | inr h => rw [h]; exact Nat.mod_lt _ hb

theorem digit?_digitChar {d : Nat} (h : d < 10) : digit? (digitChar d) = some d := by
  have hall : ∀ d < 10, digit? (digitChar d) = some d := by decide
  exact hall d h

theorem hexDigit?_digitChar {d : Nat} (h : d < 16) : hexDigit? (digitChar d) = some d := by
  have hall : ∀ d < 16, hexDigit? (digitChar d) = some d := by decide
  exact hall d h

theorem digitChar_ascii {d : Nat} (h : d < 16) : (digitChar d).toNat < 128 := by
  have hall : ∀ d < 16, (digitChar d).toNat < 128 := by decide
  exact hall d h

theorem mapM_hexDigit? {ds : List Nat} (h : ∀ d ∈ ds, d < 16) : (ds.map digitChar).mapM hexDigit? = some ds := by
  induction ds with
  | nil => rfl
  | cons d ds ih =>
    rw [List.forall_mem_cons] at h
    rw [List.map_cons, List.mapM_cons, hexDigit?_digitChar h.1, ih h.2]
    rfl

/--
Digits that are followed by none are taken whole.
-/
theorem takeDigits_map {ds : List Nat} {most : Nat} {rest : List Char} (hne : ds ≠ []) (hds : ∀ d ∈ ds, d < 10)
    (hmost : ds.length ≤ most) (hrest : ds.length = most ∨ ∀ c ∈ rest.head?, digit? c = none) :
    takeDigits most (ds.map digitChar ++ rest) = some (ds, rest) := by
  have hgo : takeDigits.go most (ds.map digitChar ++ rest) = (ds, rest) := by
    clear hne
    induction ds generalizing most with
    | nil =>
      cases most with
      | zero => rfl
      | succ most =>
        have hstop := hrest.resolve_left (Nat.succ_ne_zero most).symm
        cases rest with
        | nil => rfl
        | cons c rest =>
          show takeDigits.go (most + 1) (c :: rest) = _
          unfold takeDigits.go
          rw [hstop c rfl]
    | cons d ds ih =>
      rw [List.forall_mem_cons] at hds
      cases most with
      | zero => cases hmost
      | succ most =>
        rw [List.map_cons, List.cons_append]
        unfold takeDigits.go
        rw [digit?_digitChar hds.1, ih hds.2 (Nat.le_of_succ_le_succ hmost) (hrest.imp_left Nat.succ.inj)]
  unfold takeDigits
  rw [hgo]
  cases ds with
  | nil => exact absurd rfl hne
  | cons d ds => rfl

theorem takeNumber_fixedText {places n : Nat} (hplaces : 0 < places) (hn : n < Nat.pow 10 places) (rest : List Char) :
    takeNumber places (fixedText 10 places n ++ rest) = some (n, rest) := by
  have hlength := length_fixedDigits 10 places n
  have hne : fixedDigits 10 places n ≠ [] := by
    intro hnil
    rw [hnil] at hlength
    exact absurd hlength.symm (Nat.ne_of_gt hplaces)
  unfold takeNumber fixedText
  rw [takeDigits_map hne (fun d hd => fixedDigits_lt (by decide) hd) (Nat.le_of_eq hlength) (.inl hlength)]
  simp [ofDigits_fixedDigits places hn]

/--
The decimal digits of a number: none but a single zero starts with a zero.
-/
theorem repr_digits (n : Nat) :
    ∃ ds : List Nat, n.repr.toList = ds.map digitChar ∧ (∀ d ∈ ds, d < 10) ∧ ofDigits 10 ds = n ∧ ds ≠ [] ∧
      (ds.head? = some 0 → ds = [0]) := by
  have hchar : ∀ d < 10, Nat.digitChar d = digitChar d := by decide
  simp only [Nat.toList_repr]
  induction n using Nat.strongRecOn with
  | ind n ih =>
    rw [Nat.toDigits_eq_if (by decide)]
    split
    . next hlt =>
      refine ⟨[n], ?_, ?_, ?_, by simp, ?_⟩
      . simp [hchar n hlt]
      . simpa using hlt
      . simp [ofDigits]
      . simp
    . next hge =>
      obtain ⟨ds, hds, hlt, hvalue, hne, hzero⟩ := ih (n / 10) (by omega)
      have hmod : n % 10 < 10 := Nat.mod_lt _ (by decide)
      refine ⟨ds ++ [n % 10], ?_, ?_, ?_, by simp, ?_⟩
      . rw [hds, List.map_append, hchar _ hmod]
        rfl
      . rw [List.forall_mem_append, List.forall_mem_singleton]
        exact ⟨hlt, hmod⟩
      . rw [ofDigits_append_singleton, hvalue]
        omega
      . obtain ⟨d, ds, rfl⟩ := List.exists_cons_of_ne_nil hne
        intro h
        rw [hzero h] at hvalue
        have : n / 10 = 0 := hvalue.symm
        omega

theorem ofDigits_replicate_zero (k : Nat) (ds : List Nat) : ofDigits 10 (List.replicate k 0 ++ ds) = ofDigits 10 ds := by
  induction k with
  | zero => rfl
  | succ k ih =>
    rw [List.replicate_succ, List.cons_append]
    exact ih

/--
Zeros do not change the number that the digits after them write.
-/
theorem zeros_digits (zeros n : Nat) :
    ∃ ds : List Nat, List.replicate zeros '0' ++ n.repr.toList = ds.map digitChar ∧ (∀ d ∈ ds, d < 10) ∧
      ofDigits 10 ds = n ∧ ds ≠ [] := by
  obtain ⟨ds, hds, hlt, hvalue, hne, _⟩ := repr_digits n
  refine ⟨List.replicate zeros 0 ++ ds, ?_, ?_, ?_, by simp [hne]⟩
  . have hzero : digitChar 0 = '0' := by decide
    rw [hds, List.map_append, List.map_replicate, hzero]
  . rw [List.forall_mem_append]
    refine ⟨?_, hlt⟩
    intro d hd
    rw [List.eq_of_mem_replicate hd]
    decide
  . rw [ofDigits_replicate_zero, hvalue]

theorem paddedText_digits (places n : Nat) :
    ∃ ds : List Nat, paddedText places n = ds.map digitChar ∧ (∀ d ∈ ds, d < 10) ∧ ofDigits 10 ds = n ∧ ds ≠ [] :=
  zeros_digits (places - n.repr.toList.length) n

end StatusTimeline
