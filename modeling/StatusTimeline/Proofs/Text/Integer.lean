import Mathlib.Data.List.Induction
import StatusTimeline.Proofs.Text.Digits
import StatusTimeline.Text.Integer

/-!
This module contains which texts are read as which natural numbers: those that write the number in decimal digits,
perhaps after zeros and a plus sign.
-/

namespace StatusTimeline

/--
A text writes a natural number in decimal digits. There may be zeros and one plus sign before them.
-/
def WritesNatural (text : List Char) (n : Nat) : Prop :=
  ∃ zeros, text = List.replicate zeros '0' ++ n.repr.toList ∨
    text = '+' :: (List.replicate zeros '0' ++ n.repr.toList)

theorem digitChar_of_digit? {c : Char} {d : Nat} (h : digit? c = some d) : c = digitChar d ∧ d < 10 := by
  unfold digit? at h
  split at h
  . next hrange =>
    cases h
    obtain ⟨hlow, hhigh⟩ := hrange
    rw [Char.le_def, UInt32.le_iff_toNat_le] at hlow hhigh
    have hlow : 48 ≤ c.toNat := hlow
    have hhigh : c.toNat ≤ 57 := hhigh
    have hzero : '0'.toNat = 48 := rfl
    have hlt : c.toNat - '0'.toNat < 10 := by omega
    refine ⟨?_, hlt⟩
    unfold digitChar
    rw [if_pos hlt, hzero, Nat.add_sub_cancel' hlow, Char.ofNat_toNat]
  . cases h

theorem mapM_digit?_eq_some_iff {cs : List Char} {ds : List Nat} :
    cs.mapM digit? = some ds ↔ cs = ds.map digitChar ∧ ∀ d ∈ ds, d < 10 := by
  induction cs generalizing ds with
  | nil =>
    cases ds <;> simp
  | cons c cs ih =>
    rw [List.mapM_cons]
    constructor
    . intro h
      obtain ⟨d, hd, h⟩ := Option.bind_eq_some_iff.1 h
      obtain ⟨rest, hrest, h⟩ := Option.bind_eq_some_iff.1 h
      cases h
      obtain ⟨rfl, hlt⟩ := digitChar_of_digit? hd
      obtain ⟨rfl, hlts⟩ := ih.1 hrest
      exact ⟨rfl, List.forall_mem_cons.2 ⟨hlt, hlts⟩⟩
    . rintro ⟨heq, hlt⟩
      cases ds with
      | nil => cases heq
      | cons d ds =>
        obtain ⟨rfl, rfl⟩ := List.cons.inj heq
        rw [List.forall_mem_cons] at hlt
        rw [digit?_digitChar hlt.1, ih.2 ⟨rfl, hlt.2⟩]
        rfl

theorem allDigits?_eq_some_iff {cs : List Char} {ds : List Nat} :
    allDigits? digit? cs = some ds ↔ ds ≠ [] ∧ cs = ds.map digitChar ∧ ∀ d ∈ ds, d < 10 := by
  unfold allDigits?
  rw [← mapM_digit?_eq_some_iff]
  cases cs with
  | nil =>
    simp
  | cons c cs =>
    simp only [List.isEmpty_cons, Bool.false_eq_true, if_false]
    rw [and_iff_right_of_imp]
    rintro h rfl
    have := (mapM_digit?_eq_some_iff.1 h).1
    cases this

/--
Digits that go on from a number other than zero are those that follow the digits of that number.
-/
theorem repr_snoc {n d : Nat} (hn : n ≠ 0) (hd : d < 10) :
    (n * 10 + d).repr.toList = n.repr.toList ++ [digitChar d] := by
  have hchar : ∀ d < 10, Nat.digitChar d = digitChar d := by decide
  have hdiv : (n * 10 + d) / 10 = n := by omega
  have hmod : (n * 10 + d) % 10 = d := by omega
  simp only [Nat.toList_repr]
  rw [Nat.toDigits_eq_if (by decide), if_neg (by omega), hdiv, hmod, hchar d hd]

theorem repr_digit {d : Nat} (hd : d < 10) : d.repr.toList = [digitChar d] := by
  have hall : ∀ d < 10, d.repr.toList = [digitChar d] := by decide
  exact hall d hd

/--
All digits that have a number as their value are the digits of that number after zeros.
-/
theorem exists_zeros {ds : List Nat} (hne : ds ≠ []) (hlt : ∀ d ∈ ds, d < 10) :
    ∃ zeros, ds.map digitChar = List.replicate zeros '0' ++ (ofDigits 10 ds).repr.toList := by
  induction ds using List.reverseRecOn with
  | nil => exact absurd rfl hne
  | append_singleton ds d ih =>
    rw [List.forall_mem_append, List.forall_mem_singleton] at hlt
    rw [ofDigits_append_singleton, List.map_append, List.map_singleton]
    by_cases hnil : ds = []
    . rw [hnil]
      exact ⟨0, by rw [show ofDigits 10 [] * 10 + d = d from Nat.zero_add d, repr_digit hlt.2]; rfl⟩
    . obtain ⟨zeros, hzeros⟩ := ih hnil hlt.1
      rw [hzeros]
      by_cases hzero : ofDigits 10 ds = 0
      . refine ⟨zeros + 1, ?_⟩
        rw [hzero, Nat.zero_mul, Nat.zero_add, repr_digit hlt.2, List.replicate_succ']
        rfl
      . exact ⟨zeros, by rw [repr_snoc hzero hlt.2, List.append_assoc]⟩

theorem allDigits?_map_eq_some_iff {cs : List Char} {n : Nat} :
    (allDigits? digit? cs).map (ofDigits 10) = some n ↔
      ∃ zeros, cs = List.replicate zeros '0' ++ n.repr.toList := by
  rw [Option.map_eq_some_iff]
  constructor
  . rintro ⟨ds, hds, rfl⟩
    obtain ⟨hne, rfl, hlt⟩ := allDigits?_eq_some_iff.1 hds
    exact exists_zeros hne hlt
  . rintro ⟨zeros, rfl⟩
    obtain ⟨ds, hds, hlt, hvalue, hne⟩ := zeros_digits zeros n
    exact ⟨ds, allDigits?_eq_some_iff.2 ⟨hne, hds, hlt⟩, hvalue⟩

theorem head?_digits_ne_plus {zeros n : Nat} : (List.replicate zeros '0' ++ n.repr.toList).head? ≠ some '+' := by
  intro hplus
  obtain ⟨ds, hds, hlt, -, hne⟩ := zeros_digits zeros n
  obtain ⟨d, ds, rfl⟩ := List.exists_cons_of_ne_nil hne
  rw [hds] at hplus
  have hall : ∀ d < 10, digitChar d ≠ '+' := by decide
  exact hall d (hlt d List.mem_cons_self) (Option.some.inj hplus)

theorem naturalBelow?_eq_some_iff {bound n : Nat} {cs : List Char} :
    naturalBelow? bound cs = some n ↔ WritesNatural cs n ∧ n < bound := by
  unfold naturalBelow?
  rw [Option.filter_eq_some_iff, decide_eq_true_eq]
  apply and_congr_left
  intro _
  rw [allDigits?_map_eq_some_iff]
  unfold WritesNatural
  apply exists_congr
  intro zeros
  split
  . next ds =>
    constructor
    . rintro rfl
      exact .inr rfl
    . rintro (h | h)
      . exact absurd (congrArg List.head? h).symm head?_digits_ne_plus
      . exact (List.cons.inj h).2
  . next hplus =>
    constructor
    . exact .inl
    . rintro (h | h)
      . exact h
      . exact absurd h (hplus _)

end StatusTimeline
