import Mathlib.Data.List.TakeDrop
import StatusTimeline.Proofs.Json.Printer
import StatusTimeline.Proofs.Text.Digits

/-!
This module contains the reading of single tokens that were written: texts in quotes, whole numbers, and the three words.
-/

namespace StatusTimeline.Json

/--
What may follow a value: nothing, a comma, or the end of an array or object.
-/
def Ends (rest : List UInt8) : Prop := ∀ b ∈ rest.head?, b = code ',' ∨ b = code ']' ∨ b = code '\x7d'

theorem ends_cons {b : UInt8} (h : b = code ',' ∨ b = code ']' ∨ b = code '\x7d') (rest : List UInt8) :
    Ends (b :: rest) := by
  rintro _ ⟨⟩
  exact h

theorem toNat_code {c : Char} (h : c.toNat < 128) : (code c).toNat = c.toNat := by
  unfold code
  simp
  omega

theorem code_inj {c d : Char} (hc : c.toNat < 128) (hd : d.toNat < 128) (h : code c = code d) : c = d := by
  have hnat := congrArg UInt8.toNat h
  rw [toNat_code hc, toNat_code hd] at hnat
  rw [← Char.ofNat_toNat c, hnat, Char.ofNat_toNat]

section Text

theorem takeText_quote (part : TextPart) (rest : List UInt8) :
    takeText part (code '"' :: rest) = some (part.finish, rest) := by
  rw [takeText.eq_def]
  simp only [if_true]

theorem takeText_byte {b : UInt8} (hquote : b ≠ code '"') (hslash : b ≠ code '\\') (hcontrol : ¬ b < 0x20)
    (part : TextPart) (rest : List UInt8) : takeText part (b :: rest) = takeText (part.add [b]) rest := by
  rw [takeText.eq_def part (b :: rest)]
  simp only [if_neg hquote, if_neg hslash, if_neg hcontrol]

theorem takeText_hex {w x y z : UInt8} {n : Nat} (h : fourHex? w x y z = some n) (part : TextPart) (rest : List UInt8) :
    takeText part (code '\\' :: code 'u' :: w :: x :: y :: z :: rest) = takeText (part.addUnit n) rest := by
  have hslash : code '\\' ≠ code '"' := by decide
  have hescape : escape? (code 'u') = none := by decide
  rw [takeText.eq_def]
  simp only [if_neg hslash, if_true, hescape, h]

/--
Bytes that are no quote, no backslash and no control character are taken as they are.
-/
theorem takeText_plain {bs : List UInt8} (h : ∀ b ∈ bs, b ≠ code '"' ∧ b ≠ code '\\' ∧ ¬ b < 0x20)
    (before rest : List UInt8) :
    takeText { bytes := before } (bs ++ rest) = takeText { bytes := bs.reverse ++ before } rest := by
  induction bs generalizing before with
  | nil => rfl
  | cons b bs ih =>
    rw [List.forall_mem_cons] at h
    obtain ⟨⟨hquote, hslash, hcontrol⟩, h⟩ := h
    rw [List.cons_append, takeText_byte hquote hslash hcontrol, List.reverse_cons, List.append_assoc]
    exact ih h (b :: before)

theorem utf8Of_toNat (c : Char) : utf8Of c.toNat = String.utf8EncodeChar c := by
  unfold utf8Of
  rw [Char.ofNat_toNat, Utf8.toList_toUTF8]
  simp [Utf8.encode]

theorem addUnit_ascii {n : Nat} (h : n < 128) (before : List UInt8) :
    TextPart.addUnit { bytes := before } n = { bytes := (utf8Of n).reverse ++ before } := by
  have hhigh : isHighHalf n = false := by
    simp only [isHighHalf, Bool.and_eq_false_iff, decide_eq_false_iff_not]
    omega
  have hlow : isLowHalf n = false := by
    simp only [isLowHalf, Bool.and_eq_false_iff, decide_eq_false_iff_not]
    omega
  simp only [TextPart.addUnit, hhigh, hlow, Bool.false_eq_true, if_false]

theorem fourHex?_digitChar {a b c d : Nat} (ha : a < 16) (hb : b < 16) (hc : c < 16) (hd : d < 16) :
    fourHex? (code (digitChar a)) (code (digitChar b)) (code (digitChar c)) (code (digitChar d)) =
      some (ofDigits 16 [a, b, c, d]) := by
  have hread : ∀ d < 16, hexDigit? (Char.ofNat (code (digitChar d)).toNat) = some d := by decide
  simp [fourHex?, hread a ha, hread b hb, hread c hc, hread d hd]

theorem takeText_control {c : Char} (h : c.toNat < 0x20) (before rest : List UInt8) :
    takeText { bytes := before } (Utf8.encode ('\\' :: 'u' :: fixedText 16 4 c.toNat) ++ rest) =
      takeText { bytes := (String.utf8EncodeChar c).reverse ++ before } rest := by
  have hascii : ∀ d ∈ '\\' :: 'u' :: fixedText 16 4 c.toNat, d.toNat < 128 := by
    rw [List.forall_mem_cons, List.forall_mem_cons]
    refine ⟨by decide, by decide, ?_⟩
    intro _ hmem
    obtain ⟨d, hd, rfl⟩ := List.mem_map.1 hmem
    exact digitChar_ascii (fixedDigits_lt (by decide) hd)
  have hmod : ∀ n, n % 16 < 16 := fun n => Nat.mod_lt n (by decide)
  have hvalue := fourHex?_digitChar (hmod (c.toNat / 16 / 16 / 16)) (hmod (c.toNat / 16 / 16)) (hmod (c.toNat / 16))
    (hmod c.toNat)
  have hnumber : ofDigits 16 (fixedDigits 16 4 c.toNat) = c.toNat :=
    ofDigits_fixedDigits 4 (show c.toNat < 65536 by omega)
  rw [Utf8.encode_ascii hascii, ← utf8Of_toNat, ← addUnit_ascii (by omega)]
  exact takeText_hex (hvalue.trans (congrArg some hnumber)) _ _

/--
A character is taken from what is written for it.
-/
theorem takeText_escapedChar (c : Char) (before rest : List UInt8) :
    takeText { bytes := before } (Utf8.encode (escapedChar c) ++ rest) =
      takeText { bytes := (String.utf8EncodeChar c).reverse ++ before } rest := by
  unfold escapedChar
  split
  . next h => subst h; rfl
  split
  . next h => subst h; rfl
  split
  . next h => subst h; rfl
  split
  . next h => subst h; rfl
  split
  . next h => subst h; rfl
  split
  . next h => exact takeText_control h before rest
  . next hquote hslash _ _ _ hcontrol =>
    have hbytes : Utf8.encode [c] = String.utf8EncodeChar c := by simp [Utf8.encode]
    rw [hbytes]
    apply takeText_plain
    intro b hb
    by_cases hascii : c.toNat < 128
    . rw [Utf8.encodeChar_of_lt hascii, List.mem_singleton] at hb
      subst hb
      refine ⟨?_, ?_, ?_⟩
      . exact fun h => hquote (code_inj hascii (by decide) h)
      . exact fun h => hslash (code_inj hascii (by decide) h)
      . intro hlt
        have hlt : (code c).toNat < 0x20 := hlt
        rw [toNat_code hascii] at hlt
        exact hcontrol hlt
    . have hlarge := Utf8.le_of_mem_encodeChar (Nat.not_lt.1 hascii) hb
      refine ⟨?_, ?_, ?_⟩
      . rintro rfl
        exact absurd hlarge (by decide)
      . rintro rfl
        exact absurd hlarge (by decide)
      . exact fun hlt => absurd (Nat.lt_of_le_of_lt hlarge hlt) (by decide)

theorem takeText_quoted (s : String) (rest : List UInt8) :
    takeText {} (Utf8.encode (s.toList.flatMap escapedChar) ++ code '"' :: rest) = some (some s, rest) := by
  have htake : ∀ (cs : List Char) (before : List UInt8),
      takeText { bytes := before } (Utf8.encode (cs.flatMap escapedChar) ++ code '"' :: rest) =
        some (textOf? (before.reverse ++ Utf8.encode cs), rest) := by
    intro cs
    induction cs with
    | nil =>
      intro before
      have hnil : Utf8.encode [] = [] := rfl
      rw [List.flatMap_nil, hnil, List.nil_append, List.append_nil, takeText_quote]
      rfl
    | cons c cs ih =>
      intro before
      rw [List.flatMap_cons, Utf8.encode_append, List.append_assoc, takeText_escapedChar, ih, List.reverse_append,
        List.reverse_reverse, Utf8.encode_cons, List.append_assoc]
  rw [htake s.toList [], ← Utf8.textOf?_encode s]
  rfl

theorem nextToken_quoted (s : String) (rest : List UInt8) :
    nextToken (quotedBytes s ++ rest) = some (.text (some s), rest) := by
  have hgap : isGap (code '"') = false := by decide
  have hquote : code '"' ≠ code '\x7b' ∧ code '"' ≠ code '\x7d' ∧ code '"' ≠ code '[' ∧ code '"' ≠ code ']' ∧
      code '"' ≠ code ':' ∧ code '"' ≠ code ',' := by decide
  unfold quotedBytes
  rw [List.cons_append, List.append_assoc]
  simp [nextToken, hgap, hquote, takeText_quoted]

end Text

section Number

def digitBytes (ds : List Nat) : List UInt8 := ds.map fun d => code (digitChar d)

theorem isDigitByte_digitChar {d : Nat} (h : d < 10) : isDigitByte (code (digitChar d)) = true := by
  have hall : ∀ d < 10, isDigitByte (code (digitChar d)) = true := by decide
  exact hall d h

theorem Ends.not_digit {rest : List UInt8} (h : Ends rest) : ∀ b ∈ rest.head?, isDigitByte b = false := by
  intro b hb
  rcases h b hb with rfl | rfl | rfl <;> decide

theorem spanDigits_digitBytes {ds : List Nat} (hds : ∀ d ∈ ds, d < 10) {rest : List UInt8} (hrest : Ends rest) :
    spanDigits (digitBytes ds ++ rest) = (digitBytes ds, rest) := by
  have hall : ∀ b ∈ digitBytes ds, isDigitByte b = true := by
    intro b hb
    obtain ⟨d, hd, rfl⟩ := List.mem_map.1 hb
    exact isDigitByte_digitChar (hds d hd)
  have hstop : rest.takeWhile isDigitByte = [] ∧ rest.dropWhile isDigitByte = rest := by
    cases rest with
    | nil => exact ⟨rfl, rfl⟩
    | cons b rest => simp [hrest.not_digit b rfl]
  unfold spanDigits
  rw [List.span_eq_takeWhile_dropWhile, List.takeWhile_append_of_pos hall, List.dropWhile_append_of_pos hall, hstop.1,
    hstop.2, List.append_nil]

/--
The digits of a number of 64 bits all count.
-/
theorem appendDigits_digitBytes {ds : List Nat} (hds : ∀ d ∈ ds, d < 10) {n : Nat}
    (h : ds.foldl (fun n d => n * 10 + d) n < UInt64.size) :
    appendDigits n (digitBytes ds) = (ds.foldl (fun n d => n * 10 + d) n, 0) := by
  induction ds generalizing n with
  | nil => rfl
  | cons d ds ih =>
    rw [List.forall_mem_cons] at hds
    have hvalue : (code (digitChar d)).toNat - 0x30 = d := by
      have hall : ∀ d < 10, (code (digitChar d)).toNat - 0x30 = d := by decide
      exact hall d hds.1
    have hgrows : ∀ (ds : List Nat) (n : Nat), n ≤ ds.foldl (fun n d => n * 10 + d) n := by
      intro ds
      induction ds with
      | nil => exact fun n => Nat.le_refl n
      | cons d ds ih => exact fun n => Nat.le_trans (by omega) (ih (n * 10 + d))
    have hnext : n * 10 + d < UInt64.size := Nat.lt_of_le_of_lt (hgrows ds (n * 10 + d)) h
    show (if n * 10 + ((code (digitChar d)).toNat - 0x30) < UInt64.size then _ else _) = _
    rw [hvalue, if_pos hnext]
    exact ih hds.2 h

theorem Ends.takeExponent {rest : List UInt8} (h : Ends rest) : takeExponent rest = some (none, [], rest) := by
  cases rest with
  | nil => rfl
  | cons b rest =>
    have hnot : ¬ (b = code 'e' ∨ b = code 'E') := by
      rcases h b rfl with rfl | rfl | rfl <;> decide
    unfold Json.takeExponent
    simp only [if_neg hnot]

/--
Digits are a number, with a minus sign in front of them or not, unless a zero stands before others.
-/
theorem takeNumber_digitBytes {ds : List Nat} (hne : ds ≠ []) (hds : ∀ d ∈ ds, d < 10)
    (hzero : ds.head? = some 0 → ds = [0]) (sign : Bool) {rest : List UInt8} (hrest : Ends rest) :
    takeNumber ((if sign then [code '-'] else []) ++ (digitBytes ds ++ rest)) =
      some (numberOf sign (digitBytes ds) [] none ((if sign then [code '-'] else []) ++ digitBytes ds), rest) := by
  have hspan := spanDigits_digitBytes hds hrest
  obtain ⟨d, ds, rfl⟩ := List.exists_cons_of_ne_nil hne
  have hminus : code (digitChar d) ≠ code '-' := by
    have hall : ∀ d < 10, code (digitChar d) ≠ code '-' := by decide
    exact hall d (hds d List.mem_cons_self)
  have hwhole : ((digitBytes (d :: ds)).isEmpty ||
      ((digitBytes (d :: ds)).head? = some (code '0') && 1 < (digitBytes (d :: ds)).length)) = false := by
    have hdigit : ∀ d < 10, code (digitChar d) = code '0' → d = 0 := by decide
    by_cases hfirst : code (digitChar d) = code '0'
    . rw [hdigit d (hds d List.mem_cons_self) hfirst] at hzero ⊢
      rw [hzero rfl]
      decide
    . simp [digitBytes, hfirst]
  have hpoint : ∀ b ∈ rest.head?, b ≠ code '.' := by
    intro b hb
    rcases hrest b hb with rfl | rfl | rfl <;> decide
  obtain ⟨whole, hdef⟩ : ∃ whole, whole = digitBytes (d :: ds) := ⟨_, rfl⟩
  obtain ⟨tail, htail⟩ : ∃ tail, digitBytes (d :: ds) ++ rest = code (digitChar d) :: tail := ⟨_, rfl⟩
  rw [htail] at hspan
  rw [← hdef] at hspan hwhole
  rw [htail, ← hdef]
  cases rest with
  | nil => cases sign <;> simp [takeNumber, hminus, hspan, hwhole, hrest.takeExponent]
  | cons b rest => cases sign <;> simp [takeNumber, hminus, hspan, hwhole, hrest.takeExponent, hpoint b rfl]

/--
A number starts with neither a blank nor a sign of punctuation, and none of the words starts so.
-/
theorem nextToken_number {b : UInt8} (h : b = code '-' ∨ ∃ d < 10, b = code (digitChar d)) {bs rest : List UInt8}
    {v : Json} (htake : takeNumber (b :: bs) = some (v, rest)) : nextToken (b :: bs) = some (.scalar v, rest) := by
  have hfirst : isGap b = false ∧ b ≠ code '\x7b' ∧ b ≠ code '\x7d' ∧ b ≠ code '[' ∧ b ≠ code ']' ∧ b ≠ code ':' ∧
      b ≠ code ',' ∧ b ≠ code '"' ∧ b ≠ code 't' ∧ b ≠ code 'f' ∧ b ≠ code 'n' := by
    obtain rfl | ⟨d, hd, rfl⟩ := h
    . decide
    . clear htake
      revert d
      decide
  obtain ⟨hgap, hopen, hclose, hopenArray, hcloseArray, hcolon, hcomma, hquote, ht, hf, hn⟩ := hfirst
  have hliteral : takeLiteral (b :: bs) = none := by
    simp [takeLiteral, literals, ht.symm, hf.symm, hn.symm]
  simp [nextToken, hgap, hopen, hclose, hopenArray, hcloseArray, hcolon, hcomma, hquote, hliteral, htake]

theorem encode_digits {ds : List Nat} (hds : ∀ d ∈ ds, d < 10) : Utf8.encode (ds.map digitChar) = digitBytes ds := by
  have hascii : ∀ c ∈ ds.map digitChar, c.toNat < 128 := by
    intro c hc
    obtain ⟨d, hd, rfl⟩ := List.mem_map.1 hc
    exact digitChar_ascii (Nat.lt_trans (hds d hd) (by decide))
  rw [Utf8.encode_ascii hascii, List.map_map]
  rfl

theorem numberOf_digitBytes {ds : List Nat} (hds : ∀ d ∈ ds, d < 10) (hbound : ofDigits 10 ds < UInt64.size)
    (text : List UInt8) : numberOf false (digitBytes ds) [] none text = int (ofDigits 10 ds) := by
  simp [numberOf, appendDigits_digitBytes hds hbound, ofDigits]

theorem numberOf_minus {ds : List Nat} (hds : ∀ d ∈ ds, d < 10)
    (hbound : 0 < ofDigits 10 ds ∧ ofDigits 10 ds ≤ signedBound) (text : List UInt8) :
    numberOf true (digitBytes ds) [] none text = int (-(ofDigits 10 ds : Int)) := by
  obtain ⟨hpositive, hle⟩ := hbound
  have happend := appendDigits_digitBytes hds (n := 0) (Nat.lt_of_le_of_lt hle (by decide))
  unfold numberOf
  rw [happend]
  simp only [ofDigits] at hpositive hle ⊢
  simp [hpositive, hle]

/--
A whole number of 64 bits is taken from its digits.
-/
theorem nextToken_int {n : Int} (hleast : -signedBound ≤ n) (hmost : n < UInt64.size) {rest : List UInt8}
    (hrest : Ends rest) : nextToken ((int n).bytes ++ rest) = some (.scalar (int n), rest) := by
  obtain ⟨ds, hdigits, hds, hvalue, hne, hzero⟩ := repr_digits n.natAbs
  have hfirst : ∃ d ∈ ds, ∃ tail, digitBytes ds ++ rest = code (digitChar d) :: tail := by
    obtain ⟨d, ds, rfl⟩ := List.exists_cons_of_ne_nil hne
    exact ⟨d, List.mem_cons_self, _, rfl⟩
  obtain ⟨d, hd, tail, htail⟩ := hfirst
  cases n with
  | ofNat m =>
    have hbytes : (int (Int.ofNat m)).bytes = digitBytes ds := by
      rw [← encode_digits hds, ← hdigits]
      show Utf8.encode ("" ++ m.repr).toList = _
      rw [String.toList_append]
      rfl
    have htake := takeNumber_digitBytes hne hds hzero false hrest
    have hnumber : numberOf false (digitBytes ds) [] none (digitBytes ds) = int (Int.ofNat m) := by
      rw [numberOf_digitBytes hds (by rw [hvalue]; exact Int.ofNat_lt.1 hmost), hvalue]
      rfl
    simp only [Bool.false_eq_true, if_false, List.nil_append, hnumber] at htake
    rw [hbytes, htail]
    exact nextToken_number (.inr ⟨d, hds d hd, rfl⟩) (htail ▸ htake)
  | negSucc m =>
    have hbytes : (int (Int.negSucc m)).bytes = code '-' :: digitBytes ds := by
      have hminus : Utf8.encode "-".toList = [code '-'] := by decide
      rw [← encode_digits hds, ← hdigits]
      show Utf8.encode ("" ++ ("-" ++ (m + 1).repr)).toList = code '-' :: Utf8.encode (m + 1).repr.toList
      rw [String.toList_append, String.toList_append, Utf8.encode_append, Utf8.encode_append, hminus]
      rfl
    have htake := takeNumber_digitBytes hne hds hzero true hrest
    have hnumber : numberOf true (digitBytes ds) [] none (code '-' :: digitBytes ds) = int (Int.negSucc m) := by
      rw [numberOf_minus hds (by rw [hvalue]; omega), hvalue]
      exact congrArg int (by omega)
    simp only [if_true, List.cons_append, List.nil_append, hnumber] at htake
    rw [hbytes, List.cons_append]
    exact nextToken_number (.inl rfl) htake

end Number

theorem nextToken_null {rest : List UInt8} : nextToken (null.bytes ++ rest) = some (.scalar null, rest) := by
  rfl

theorem nextToken_bool (b : Bool) {rest : List UInt8} :
    nextToken ((bool b).bytes ++ rest) = some (.scalar (bool b), rest) := by
  cases b <;> rfl

end StatusTimeline.Json
