/-!
This module contains numbers of 53 significant binary digits, in which some lengths of time and all numbers
of JSON that are not whole are counted. They have no sign and no greatest exponent.
-/

namespace StatusTimeline

/--
The whole number nearest to a quotient; of two that are as near, the even one.
-/
def nearestQuotient (num den : Nat) : Nat :=
  let quotient := num / den
  let rest := num % den
  if den < 2 * rest || (den = 2 * rest && quotient % 2 = 1) then quotient + 1 else quotient

structure Binary64 where
  mantissa : Nat
  exponent : Int
deriving DecidableEq, Inhabited, Repr

namespace Binary64

/--
A quotient divided by a power of two, as a numerator and a denominator.
-/
def scaleDown (num den : Nat) (exponent : Int) : Nat × Nat :=
  (num * Nat.pow 2 (-exponent).toNat, den * Nat.pow 2 exponent.toNat)

def ofQuotient (num den : Nat) : Binary64 :=
  let guess : Int := (num.log2 : Int) - den.log2 - 52
  let (n, d) := scaleDown num den guess
  let exponent := if n / d < Nat.pow 2 52 then guess - 1 else guess
  let (n, d) := scaleDown num den exponent
  { mantissa := nearestQuotient n d, exponent }

def ofNat (n : Nat) : Binary64 := ofQuotient n 1

def value (x : Binary64) : Nat × Nat := scaleDown x.mantissa 1 (-x.exponent)

def add (x y : Binary64) : Binary64 :=
  let (a, b) := x.value
  let (c, d) := y.value
  ofQuotient (a * d + c * b) (b * d)

def mul (x y : Binary64) : Binary64 :=
  let (a, b) := x.value
  let (c, d) := y.value
  ofQuotient (a * c) (b * d)

def round (x : Binary64) : Nat :=
  let (num, den) := x.value
  nearestQuotient num den

/--
Whether a number is below the power of two that floating point numbers do not reach.
-/
def isFinite (x : Binary64) : Bool :=
  let (num, den) := x.value
  num < den * Nat.pow 2 1024

end Binary64

end StatusTimeline
