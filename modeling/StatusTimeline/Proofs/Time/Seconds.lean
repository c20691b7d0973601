import Mathlib.Algebra.Order.Field.Power
import Mathlib.Data.Nat.Cast.Order.Field
import Mathlib.Data.Rat.Cast.Order
import Mathlib.Tactic.FieldSimp
import Mathlib.Tactic.Linarith
import Mathlib.Tactic.NormNum
import Mathlib.Tactic.Positivity
import Mathlib.Tactic.Ring
import StatusTimeline.Time.Micros

/-!
This module contains how far a number of 53 significant binary digits is from what it stands for, and from that which
lengths of time the database counts exactly when it is given them in seconds.
-/

namespace StatusTimeline

section Nearest

variable {num den : Nat}

theorem div_add_rest (num : Nat) (hden : 0 < den) :
    (num : ℚ) / den = (num / den : Nat) + (num % den : Nat) / (den : ℚ) := by
  have hpos : (0 : ℚ) < den := by exact_mod_cast hden
  have hsplit : (den : ℚ) * (num / den : Nat) + (num % den : Nat) = num := by exact_mod_cast Nat.div_add_mod num den
  rw [div_eq_iff hpos.ne', add_mul, div_mul_cancel₀ _ hpos.ne']
  linarith

/--
A quotient is rounded by a half at most.
-/
theorem nearestQuotient_error (num : Nat) (hden : 0 < den) :
    |(nearestQuotient num den : ℚ) - num / den| ≤ 1 / 2 := by
  have hpos : (0 : ℚ) < den := by exact_mod_cast hden
  have hrest : num % den < den := Nat.mod_lt num hden
  rw [div_add_rest num hden, abs_le]
  unfold nearestQuotient
  dsimp only
  split
  . next hup =>
    have hhalf : (den : ℚ) ≤ 2 * (num % den : Nat) := by
      rw [Bool.or_eq_true, Bool.and_eq_true, decide_eq_true_eq, decide_eq_true_eq] at hup
      exact_mod_cast (by omega : den ≤ 2 * (num % den))
    have hlow : (1 : ℚ) / 2 ≤ (num % den : Nat) / (den : ℚ) := by
      rw [le_div_iff₀ hpos]
      linarith
    have hhigh : ((num % den : Nat) : ℚ) / den ≤ 1 := by
      rw [div_le_one hpos]
      exact_mod_cast hrest.le
    push_cast
    constructor <;> linarith
  . next hdown =>
    have hhalf : 2 * ((num % den : Nat) : ℚ) ≤ den := by
      rw [Bool.or_eq_true, not_or, decide_eq_true_eq] at hdown
      exact_mod_cast (by omega : 2 * (num % den) ≤ den)
    have hlow : (0 : ℚ) ≤ (num % den : Nat) / (den : ℚ) := by positivity
    have hhigh : ((num % den : Nat) : ℚ) / den ≤ 1 / 2 := by
      rw [div_le_iff₀ hpos]
      linarith
    constructor <;> linarith

/--
What is away from an even number by a half at most is rounded to it.
-/
theorem nearestQuotient_eq {n : Nat} (hden : 0 < den) (heven : n % 2 = 0) (h : |(num : ℚ) / den - n| ≤ 1 / 2) :
    nearestQuotient num den = n := by
  have hpos : (0 : ℚ) < den := by exact_mod_cast hden
  rw [abs_le, le_sub_iff_add_le, sub_le_iff_le_add, div_le_iff₀ hpos, le_div_iff₀ hpos] at h
  have hlow : 2 * n * den ≤ 2 * num + den := by
    have : (2 * n * den : ℚ) ≤ 2 * num + den := by linarith
    exact_mod_cast this
  have hhigh : 2 * num ≤ 2 * n * den + den := by
    have : (2 * num : ℚ) ≤ 2 * n * den + den := by linarith
    exact_mod_cast this
  have hsplit := Nat.div_add_mod num den
  unfold nearestQuotient
  dsimp only
  rcases Nat.lt_or_ge num (n * den) with hbelow | habove
  . obtain ⟨k, rfl⟩ : ∃ k, n = k + 1 := Nat.exists_eq_succ_of_ne_zero (by rintro rfl; omega)
    have hquotient : num / den = k := by
      apply Nat.div_eq_of_lt_le
      . linarith
      . linarith
    rw [hquotient] at hsplit ⊢
    rw [if_pos]
    rw [Bool.or_eq_true, Bool.and_eq_true, decide_eq_true_eq, decide_eq_true_eq, decide_eq_true_eq]
    have hhalf : den ≤ 2 * (num % den) := by linarith
    omega
  . have hquotient : num / den = n := by
      apply Nat.div_eq_of_lt_le
      . exact habove
      . linarith
    rw [hquotient] at hsplit ⊢
    rw [if_neg]
    rw [Bool.or_eq_true, Bool.and_eq_true, decide_eq_true_eq, decide_eq_true_eq, decide_eq_true_eq]
    have hhalf : 2 * (num % den) ≤ den := by linarith
    omega

end Nearest

namespace Binary64

/--
The number itself.
-/
def toRat (x : Binary64) : ℚ := x.mantissa * 2 ^ x.exponent

theorem scaleDown_pos {den : Nat} (num : Nat) (hden : 0 < den) (e : Int) : 0 < (scaleDown num den e).2 :=
  Nat.mul_pos hden (Nat.pow_pos (by decide))

theorem scaleDown_div (num den : Nat) (e : Int) :
    ((scaleDown num den e).1 : ℚ) / (scaleDown num den e).2 = num / den / 2 ^ e := by
  have hpow : (2 : ℚ) ^ e = 2 ^ e.toNat / 2 ^ (-e).toNat := by
    rw [← zpow_natCast, ← zpow_natCast, ← zpow_sub₀ two_ne_zero]
    congr 1
    omega
  have hnum : (scaleDown num den e).1 = num * 2 ^ (-e).toNat := rfl
  have hden : (scaleDown num den e).2 = den * 2 ^ e.toNat := rfl
  rw [hnum, hden, hpow]
  push_cast
  field_simp

theorem value_pos (x : Binary64) : 0 < x.value.2 := scaleDown_pos x.mantissa Nat.one_pos _

theorem value_div (x : Binary64) : (x.value.1 : ℚ) / x.value.2 = x.toRat := by
  unfold value toRat
  rw [scaleDown_div, Nat.cast_one, div_one, zpow_neg, div_inv_eq_mul]

variable {num den : Nat}

theorem ofQuotient_error (num : Nat) (hden : 0 < den) :
    |(ofQuotient num den).toRat - num / den| ≤ 2 ^ (ofQuotient num den).exponent / 2 := by
  have hpow : (0 : ℚ) < 2 ^ (ofQuotient num den).exponent := by positivity
  have herror := nearestQuotient_error (scaleDown num den (ofQuotient num den).exponent).1
    (scaleDown_pos num hden (ofQuotient num den).exponent)
  rw [scaleDown_div] at herror
  have hvalue : (ofQuotient num den).mantissa =
      nearestQuotient (scaleDown num den (ofQuotient num den).exponent).1
        (scaleDown num den (ofQuotient num den).exponent).2 := rfl
  rw [← hvalue] at herror
  have hscaled : (ofQuotient num den).toRat - num / den =
      ((ofQuotient num den).mantissa - num / den / 2 ^ (ofQuotient num den).exponent) *
        2 ^ (ofQuotient num den).exponent := by
    rw [sub_mul, div_mul_cancel₀ _ hpow.ne']
    rfl
  rw [hscaled, abs_mul, abs_of_pos hpow]
  linarith [mul_le_mul_of_nonneg_right herror hpow.le]

/--
All 53 digits are used.
-/
theorem le_ofQuotient (hnum : 0 < num) (hden : 0 < den) :
    2 ^ 52 * 2 ^ (ofQuotient num den).exponent ≤ (num : ℚ) / den := by
  have hpos : (0 : ℚ) < den := by exact_mod_cast hden
  have hlow : (2 : ℚ) ^ num.log2 ≤ num := by exact_mod_cast Nat.log2_self_le hnum.ne'
  have hhigh : (den : ℚ) ≤ 2 ^ (den.log2 + 1) := by exact_mod_cast Nat.lt_log2_self.le
  generalize hguess : (num.log2 : Int) - den.log2 - 52 = guess
  have hexponent : (ofQuotient num den).exponent =
      if (scaleDown num den guess).1 / (scaleDown num den guess).2 < 2 ^ 52 then guess - 1 else guess := by
    rw [← hguess]
    rfl
  rw [hexponent]
  split
  . have hpow : (2 : ℚ) ^ 52 * 2 ^ (guess - 1) = 2 ^ num.log2 / 2 ^ (den.log2 + 1) := by
      rw [← zpow_natCast, ← zpow_natCast, ← zpow_natCast, ← zpow_sub₀ two_ne_zero, ← zpow_add₀ two_ne_zero]
      congr 1
      omega
    rw [hpow]
    exact div_le_div₀ (by positivity) hlow hpos hhigh
  . next hmany =>
    have hpow : (0 : ℚ) < 2 ^ guess := by positivity
    have hscaled : (2 : ℚ) ^ 52 ≤ num / den / 2 ^ guess := by
      rw [← scaleDown_div]
      have hquotient : 2 ^ 52 ≤ (scaleDown num den guess).1 / (scaleDown num den guess).2 := Nat.le_of_not_lt hmany
      calc (2 : ℚ) ^ 52
          ≤ ((scaleDown num den guess).1 / (scaleDown num den guess).2 : Nat) := by exact_mod_cast hquotient
        _ ≤ _ := Nat.cast_div_le
    rwa [le_div_iff₀ hpow] at hscaled

theorem ofQuotient_zero (den : Nat) : (ofQuotient 0 den).toRat = 0 := by
  have hmantissa : (ofQuotient 0 den).mantissa = 0 := by
    unfold ofQuotient scaleDown nearestQuotient
    simp
  rw [toRat, hmantissa, Nat.cast_zero, zero_mul]

/--
The error is small compared with the number.
-/
theorem ofQuotient_near (num : Nat) (hden : 0 < den) :
    |(ofQuotient num den).toRat - num / den| ≤ num / den / 2 ^ 53 := by
  rcases Nat.eq_zero_or_pos num with rfl | hnum
  . rw [ofQuotient_zero, Nat.cast_zero, zero_div, sub_zero, abs_zero, zero_div]
  . have herror := ofQuotient_error num hden
    have hlow := le_ofQuotient hnum hden
    rw [le_div_iff₀ (by positivity)]
    linarith

/--
A number that a quotient is rounded to.
-/
inductive Rounds : Binary64 → ℚ → Prop where
  | intro (num den : Nat) (hden : 0 < den) : Rounds (ofQuotient num den) (num / den)

variable {x y : Binary64} {q : ℚ}

theorem rounds_ofNat (n : Nat) : Rounds (ofNat n) n := by
  have h := Rounds.intro n 1 Nat.one_pos
  rwa [Nat.cast_one, div_one] at h

theorem rounds_add (x y : Binary64) : Rounds (x.add y) (x.toRat + y.toRat) := by
  have h := Rounds.intro (x.value.1 * y.value.2 + y.value.1 * x.value.2) (x.value.2 * y.value.2)
    (Nat.mul_pos x.value_pos y.value_pos)
  have hx : (x.value.2 : ℚ) ≠ 0 := by exact_mod_cast x.value_pos.ne'
  have hy : (y.value.2 : ℚ) ≠ 0 := by exact_mod_cast y.value_pos.ne'
  have hsum : ((x.value.1 * y.value.2 + y.value.1 * x.value.2 : Nat) : ℚ) / (x.value.2 * y.value.2 : Nat) =
      x.toRat + y.toRat := by
    rw [← value_div x, ← value_div y]
    push_cast
    field_simp
  rwa [hsum] at h

theorem rounds_mul (x y : Binary64) : Rounds (x.mul y) (x.toRat * y.toRat) := by
  have h := Rounds.intro (x.value.1 * y.value.1) (x.value.2 * y.value.2) (Nat.mul_pos x.value_pos y.value_pos)
  have hproduct : ((x.value.1 * y.value.1 : Nat) : ℚ) / (x.value.2 * y.value.2 : Nat) = x.toRat * y.toRat := by
    rw [← value_div x, ← value_div y]
    push_cast
    rw [div_mul_div_comm]
  rwa [hproduct] at h

namespace Rounds

theorem near (h : Rounds x q) : |x.toRat - q| ≤ q / 2 ^ 53 := by
  cases h with
  | intro num den hden => exact ofQuotient_near num hden

theorem error (h : Rounds x q) : |x.toRat - q| ≤ 2 ^ x.exponent / 2 := by
  cases h with
  | intro num den hden => exact ofQuotient_error num hden

theorem exponent_lt (h : Rounds x q) (hpos : 0 < q) {b : Int} (hq : q < 2 ^ 52 * 2 ^ b) : x.exponent < b := by
  cases h with
  | intro num den hden =>
    have hnum : 0 < num := by
      rcases Nat.eq_zero_or_pos num with rfl | hnum
      . rw [Nat.cast_zero, zero_div] at hpos
        exact absurd hpos (lt_irrefl _)
      . exact hnum
    have hpow : (2 : ℚ) ^ 52 * 2 ^ (ofQuotient num den).exponent < 2 ^ 52 * 2 ^ b :=
      (le_ofQuotient hnum hden).trans_lt hq
    rw [mul_lt_mul_iff_right₀ (by positivity)] at hpow
    exact (zpow_lt_zpow_iff_right₀ one_lt_two).1 hpow

theorem exponent_nonpos (h : Rounds x q) (hpos : 0 < q) (hq : q < 2 ^ 53) : x.exponent ≤ 0 := by
  have hlt : x.exponent < 1 := by
    apply h.exponent_lt hpos
    norm_num at hq ⊢
    exact hq
  omega

theorem eq_of_near {a b : Int} (h : |(a : ℚ) - b| < 1) : a = b := by
  have hdiff : |a - b| < 1 := by exact_mod_cast h
  rwa [Int.abs_lt_one_iff, sub_eq_zero] at hdiff

/--
A number that needs no more digits stays as it is.
-/
theorem exact (h : Rounds x q) {j : Int} (hj : q = j * 2 ^ x.exponent) : x.toRat = q := by
  have hpow : (0 : ℚ) < 2 ^ x.exponent := by positivity
  have herror := h.error
  have hdiff : x.toRat - q = (x.mantissa - j : ℚ) * 2 ^ x.exponent := by
    rw [hj, toRat]
    ring
  rw [hdiff, abs_mul, abs_of_pos hpow, mul_comm, ← le_div_iff₀' hpow] at herror
  have hhalf : |(x.mantissa : ℚ) - j| ≤ 1 / 2 := by
    apply herror.trans
    rw [div_div, mul_comm, ← div_div, div_self hpow.ne']
  have hsame : (x.mantissa : Int) = j := by
    apply eq_of_near
    rw [Int.cast_natCast]
    linarith
  rw [hj, toRat, ← hsame]
  rfl

/--
A whole number is a multiple of every power of two that is not greater than one.
-/
theorem whole_of_exponent (j : Int) {e : Int} (he : e ≤ 0) : ((j * 2 ^ (-e).toNat : Int) : ℚ) * 2 ^ e = j := by
  have hpow : (2 : ℚ) ^ (-e).toNat * 2 ^ e = 1 := by
    rw [← zpow_natCast, ← zpow_add₀ two_ne_zero, Int.toNat_of_nonneg (by omega), neg_add_cancel, zpow_zero]
  push_cast
  rw [mul_assoc, hpow, mul_one]

theorem whole {n : Nat} (h : Rounds x n) (hn : n < 2 ^ 53) : x.toRat = n := by
  rcases Nat.eq_zero_or_pos n with rfl | hpos
  . have hnear := h.near
    rw [Nat.cast_zero, sub_zero, zero_div] at hnear
    rw [Nat.cast_zero, ← abs_nonpos_iff]
    exact hnear
  . have he := h.exponent_nonpos (by exact_mod_cast hpos) (by exact_mod_cast hn)
    apply h.exact (j := n * 2 ^ (-x.exponent).toNat)
    rw [whole_of_exponent n he]
    rfl

/--
The halves are multiples of every power of two that is smaller than one.
-/
theorem half_of_exponent (j : Int) {e : Int} (he : e < 0) : ∃ k : Int, (k : ℚ) * 2 ^ e = j / 2 := by
  refine ⟨j * 2 ^ (-(e + 1)).toNat, ?_⟩
  have hwhole := whole_of_exponent j (Int.add_one_le_iff.2 he)
  rw [zpow_add_one₀ two_ne_zero, ← mul_assoc] at hwhole
  rw [eq_div_iff two_ne_zero]
  exact hwhole

/--
Rounding does not go past a half.
-/
theorem le_half (h : Rounds x q) (he : x.exponent < 0) {j : Int} (hq : q < j / 2) : x.toRat ≤ j / 2 := by
  have hpow : (0 : ℚ) < 2 ^ x.exponent := by positivity
  obtain ⟨k, hk⟩ := half_of_exponent j he
  have herror := (abs_le.1 h.error).2
  by_contra hpast
  rw [not_le, ← hk, toRat, mul_lt_mul_iff_left₀ hpow] at hpast
  have hnext : k + 1 ≤ (x.mantissa : Int) := by exact_mod_cast hpast
  have hnext : ((k + 1 : Int) : ℚ) ≤ (x.mantissa : Int) := Int.cast_le.2 hnext
  have hscaled := mul_le_mul_of_nonneg_right hnext hpow.le
  push_cast at hscaled
  rw [toRat] at herror
  linarith

theorem half_le (h : Rounds x q) (he : x.exponent < 0) {j : Int} (hq : j / 2 < q) : j / 2 ≤ x.toRat := by
  have hpow : (0 : ℚ) < 2 ^ x.exponent := by positivity
  obtain ⟨k, hk⟩ := half_of_exponent j he
  have herror := (abs_le.1 h.error).1
  by_contra hpast
  rw [not_le, ← hk, toRat, mul_lt_mul_iff_left₀ hpow] at hpast
  have hnext : (x.mantissa : Int) + 1 ≤ k := by exact_mod_cast hpast
  have hnext : (((x.mantissa : Int) + 1 : Int) : ℚ) ≤ k := Int.cast_le.2 hnext
  have hscaled := mul_le_mul_of_nonneg_right hnext hpow.le
  push_cast at hscaled
  rw [toRat] at herror
  linarith

/--
What is away from an even number by less than a half is rounded to it, to 53 digits first.
-/
theorem round_eq (h : Rounds x q) {n : Nat} (heven : n % 2 = 0) (hn : |q - n| < 1 / 2) (hq : q < 2 ^ 53) :
    x.round = n := by
  have hround : x.round = nearestQuotient x.value.1 x.value.2 := rfl
  rw [hround]
  apply nearestQuotient_eq x.value_pos heven
  rw [value_div]
  obtain ⟨hlow, hhigh⟩ := abs_lt.1 hn
  rcases le_or_gt q 0 with hzero | hpos
  . have hnear : |x.toRat - q| ≤ 0 := h.near.trans (div_nonpos_of_nonpos_of_nonneg hzero (by positivity))
    rw [sub_eq_zero.1 (abs_nonpos_iff.1 hnear)]
    exact hn.le
  . rcases Int.lt_or_eq_of_le (h.exponent_nonpos hpos hq) with he | he
    . have hle := h.le_half he (j := 2 * n + 1) (by push_cast; linarith)
      have hge := h.half_le he (j := 2 * n - 1) (by push_cast; linarith)
      push_cast at hle hge
      rw [abs_le]
      constructor <;> linarith
    . -- the number is whole, and less than one away
      have herror := h.error
      rw [toRat, he, zpow_zero, mul_one] at herror ⊢
      have hsame : (x.mantissa : Int) = n := by
        apply eq_of_near
        rw [Int.cast_natCast, Int.cast_natCast]
        linarith [abs_sub_le (x.mantissa : ℚ) q n]
      rw [Int.ofNat_inj.1 hsame, sub_self, abs_zero]
      norm_num

end Rounds

theorem round_error (x : Binary64) : |(x.round : ℚ) - x.toRat| ≤ 1 / 2 := by
  rw [← value_div]
  exact nearestQuotient_error x.value.1 x.value_pos

end Binary64

namespace Instant

open Binary64

/--
A number of milliseconds in seconds, as the database is given it.
-/
def secondsOf (millis : Nat) : Binary64 :=
  (Binary64.ofNat (millis / 1000)).add (.ofQuotient (millis % 1000 * 1000000) 1000000000)

theorem microsOf_eq (millis : Nat) : microsOf (.ofMillis millis) = ((secondsOf millis).mul (.ofNat 1000000)).round := by
  have hseconds : (Span.ofMillis millis).seconds = millis / 1000 := by
    show millis * 1000000 / 1000000000 = _
    omega
  have hsubsecond : (Span.ofMillis millis).subsecond = millis % 1000 * 1000000 := by
    show millis * 1000000 % 1000000000 = _
    omega
  unfold microsOf secondsOf
  rw [hseconds, hsubsecond]

theorem rounds_seconds (millis : Nat) :
    Rounds (secondsOf millis)
      ((ofNat (millis / 1000)).toRat + (ofQuotient (millis % 1000 * 1000000) 1000000000).toRat) :=
  rounds_add _ _

theorem rounds_micros (millis : Nat) :
    Rounds ((secondsOf millis).mul (.ofNat 1000000)) ((secondsOf millis).toRat * 1000000) := by
  have h := rounds_mul (secondsOf millis) (.ofNat 1000000)
  rwa [(rounds_ofNat 1000000).whole (by decide)] at h

theorem millis_split (millis : Nat) :
    (millis : ℚ) / 1000 = (millis / 1000 : Nat) + ((millis % 1000 * 1000000 : Nat) : ℚ) / (1000000000 : Nat) := by
  have h := div_add_rest millis (show 0 < 1000 by decide)
  push_cast at h ⊢
  rw [h]
  ring

/--
Below 2 ^ 33 seconds a number of milliseconds is less than half a microsecond away from what the database is given.
-/
theorem secondsOf_error {millis : Nat} (hpos : 0 < millis) (h : millis < 2 ^ 33 * 1000) :
    |(secondsOf millis).toRat * 1000000 - (millis * 1000 : Nat)| < 1 / 2 := by
  have hmillis : (millis : ℚ) / 1000 ≤ 2 ^ 33 - 1 / 1000 := by
    have hle : ((millis + 1 : Nat) : ℚ) ≤ (2 ^ 33 * 1000 : Nat) := Nat.cast_le.2 h
    push_cast at hle
    linarith
  have hone : (1 : ℚ) ≤ millis := by exact_mod_cast hpos
  have hsplit := millis_split millis
  have hwhole := (rounds_ofNat (millis / 1000)).whole (by omega)
  have hsum := rounds_seconds millis
  have hrest := (Rounds.intro (millis % 1000 * 1000000) 1000000000 (by decide)).near
  have hshort : ((millis % 1000 * 1000000 : Nat) : ℚ) / (1000000000 : Nat) < 1 := by
    rw [div_lt_one (by norm_num)]
    exact_mod_cast (by omega : millis % 1000 * 1000000 < 1000000000)
  rw [hwhole] at hsum
  obtain ⟨hrest, hrest'⟩ := abs_le.1 hrest
  have he : (secondsOf millis).exponent < -19 := by
    have hpow : (2 : ℚ) ^ 52 * 2 ^ (-19 : Int) = 2 ^ 33 := by norm_num
    apply hsum.exponent_lt
    . linarith
    . rw [hpow]
      linarith
  have hpow : (2 : ℚ) ^ (secondsOf millis).exponent ≤ 2 ^ (-20 : Int) :=
    zpow_le_zpow_right₀ one_le_two (Int.lt_add_one_iff.1 he)
  obtain ⟨hsum, hsum'⟩ := abs_le.1 hsum.error
  norm_num at hpow
  push_cast at *
  rw [abs_lt]
  constructor <;> linarith

/--
The database counts every whole number of milliseconds that is shorter than 2 ^ 33 seconds exactly.
-/
theorem microsOf_ofMillis {millis : Nat} (h : millis < 2 ^ 33 * 1000) :
    microsOf (.ofMillis millis) = millis * 1000 := by
  rcases Nat.eq_zero_or_pos millis with rfl | hpos
  . decide +kernel
  . rw [microsOf_eq]
    have herror := secondsOf_error hpos h
    apply (rounds_micros millis).round_eq (by omega) herror
    have hmillis : (millis * 1000 : Nat) < (2 ^ 33 * 1000 * 1000 : ℚ) := by
      exact_mod_cast (by omega : millis * 1000 < 2 ^ 33 * 1000 * 1000)
    have hhigh := (abs_lt.1 herror).2
    norm_num at hmillis ⊢
    push_cast at hhigh
    linarith

/--
However long a number of milliseconds is, at most a thousandth of it is lost.
-/
theorem le_microsOf_ofMillis (millis : Nat) : millis * 999 ≤ microsOf (.ofMillis millis) := by
  rw [microsOf_eq]
  have hsplit := millis_split millis
  have hwhole := (abs_le.1 (rounds_ofNat (millis / 1000)).near).1
  have hrest := (abs_le.1 (Rounds.intro (millis % 1000 * 1000000) 1000000000 (by decide)).near).1
  have hsum := (abs_le.1 (rounds_seconds millis).near).1
  have hmicros := (abs_le.1 (rounds_micros millis).near).1
  have hround := (abs_le.1 ((secondsOf millis).mul (.ofNat 1000000)).round_error).1
  rcases Nat.eq_zero_or_pos millis with rfl | hpos
  . rw [zero_mul]
    exact Nat.zero_le _
  . have hone : (1 : ℚ) ≤ millis := by exact_mod_cast hpos
    have hle : (millis * 999 : ℚ) ≤ (((secondsOf millis).mul (.ofNat 1000000)).round : Nat) := by
      linarith
    exact_mod_cast hle

end Instant

end StatusTimeline
