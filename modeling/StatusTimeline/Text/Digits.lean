/-!
This module contains the decimal and hexadecimal digits: reading runs of them and writing numbers with
a fixed number of places.
-/

namespace StatusTimeline

def digit? (c : Char) : Option Nat :=
  if '0' ≤ c ∧ c ≤ '9' then some (c.toNat - '0'.toNat) else none

def hexDigit? (c : Char) : Option Nat :=
  if '0' ≤ c ∧ c ≤ '9' then some (c.toNat - '0'.toNat)
  else if 'a' ≤ c ∧ c ≤ 'f' then some (c.toNat - 'a'.toNat + 10)
  else if 'A' ≤ c ∧ c ≤ 'F' then some (c.toNat - 'A'.toNat + 10)
  else none

/--
The number that a list of digits writes in the given base, most significant digit first.
-/
def ofDigits (base : Nat) (ds : List Nat) : Nat :=
  ds.foldl (fun n d => n * base + d) 0

/--
Read at least one and at most `most` decimal digits from the front: their values and what follows.
-/
def takeDigits (most : Nat) (cs : List Char) : Option (List Nat × List Char) :=
  match go most cs with
  | ([], _) => none
  | found => some found
where
  go : Nat → List Char → List Nat × List Char
    | 0, cs => ([], cs)
    | _ + 1, [] => ([], [])
    | most + 1, c :: cs =>
      match digit? c with
      | some d => let (ds, rest) := go most cs; (d :: ds, rest)
      | none => ([], c :: cs)

/--
The decimal number in at least one and at most `most` digits at the front, and what follows.
-/
def takeNumber (most : Nat) (cs : List Char) : Option (Nat × List Char) :=
  (takeDigits most cs).map fun (ds, rest) => (ofDigits 10 ds, rest)

/--
The values of all characters, when each is a digit and there is one.
-/
def allDigits? (value : Char → Option Nat) (cs : List Char) : Option (List Nat) :=
  if cs.isEmpty then none else cs.mapM value

def digitChar (d : Nat) : Char :=
  if d < 10 then Char.ofNat ('0'.toNat + d) else Char.ofNat ('a'.toNat + (d - 10))

/--
The lowest `places` digits of a number, most significant first.
-/
def fixedDigits (base : Nat) : Nat → Nat → List Nat
  | 0, _ => []
  | places + 1, n => fixedDigits base places (n / base) ++ [n % base]

def fixedText (base places n : Nat) : List Char :=
  (fixedDigits base places n).map digitChar

def paddedText (places n : Nat) : List Char :=
  let digits := n.repr.toList
  List.replicate (places - digits.length) '0' ++ digits

theorem length_fixedDigits (base places n : Nat) : (fixedDigits base places n).length = places := by
  induction places generalizing n with
  | zero => rfl
  | succ places ih => simp [fixedDigits, ih]

theorem ofDigits_append_singleton (base : Nat) (ds : List Nat) (d : Nat) :
    ofDigits base (ds ++ [d]) = ofDigits base ds * base + d := by
  simp [ofDigits]

/--
Reading the digits of a number that fits in its places gives the number.
-/
theorem ofDigits_fixedDigits {base : Nat} (places : Nat) {n : Nat} (h : n < Nat.pow base places) :
    ofDigits base (fixedDigits base places n) = n := by
  induction places generalizing n with
  | zero => simp at h; simp [h, ofDigits, fixedDigits]
  | succ places ih =>
    have hlt : n / base < Nat.pow base places := by
      apply Nat.div_lt_of_lt_mul
      rw [Nat.mul_comm]
      exact h
    rw [fixedDigits, ofDigits_append_singleton, ih hlt, Nat.mul_comm]
    exact Nat.div_add_mod n base

end StatusTimeline
