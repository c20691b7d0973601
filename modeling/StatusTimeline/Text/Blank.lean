/-!
This module contains the white space of Unicode, the trimming of texts by it, and the lower case of
ASCII letters.
-/

namespace StatusTimeline

def isBlank (c : Char) : Bool :=
  let n := c.toNat
  (9 ≤ n && n ≤ 13) || n == 0x20 || n == 0x85 || n == 0xA0 || n == 0x1680 ||
    (0x2000 ≤ n && n ≤ 0x200A) || n == 0x2028 || n == 0x2029 || n == 0x202F || n == 0x205F ||
    n == 0x3000

theorem isBlank_of_isWhitespace {c : Char} (h : c.isWhitespace = true) : isBlank c = true := by
  simp only [Char.isWhitespace, Bool.or_eq_true, decide_eq_true_eq] at h
  rcases h with ((h | h) | h) | h <;> subst h <;> decide

def skipBlanks (cs : List Char) : List Char :=
  cs.dropWhile isBlank

def trimBlanks (cs : List Char) : List Char :=
  (skipBlanks (skipBlanks cs).reverse).reverse

def trimmed (s : String) : String :=
  String.ofList (trimBlanks s.toList)

/--
The text with its ASCII capitals in lower case; every other character stays.
-/
def asciiLower (s : String) : String :=
  String.ofList (s.toList.map Char.toLower)

theorem skipBlanks_nil : skipBlanks [] = [] := rfl

theorem skipBlanks_idem (cs : List Char) : skipBlanks (skipBlanks cs) = skipBlanks cs := by
  induction cs with
  | nil => rfl
  | cons c cs ih =>
    cases h : isBlank c with
    | true => simpa [skipBlanks, h] using ih
    | false => simp [skipBlanks, h]

end StatusTimeline
