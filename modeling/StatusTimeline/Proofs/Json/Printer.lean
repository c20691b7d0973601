import StatusTimeline.Json.Printer
import StatusTimeline.Proofs.Text.Utf8

/-!
This module contains the bytes of the text that is written for a JSON value, part by part.
-/

namespace StatusTimeline.Json

def quotedBytes (s : String) : List UInt8 :=
  code '"' :: (Utf8.encode (s.toList.flatMap escapedChar) ++ [code '"'])

mutual

/--
The bytes of the text of a value.
-/
def bytes : Json → List UInt8
  | str s => quotedBytes s
  | arr items => code '[' :: (itemsBytes [] items ++ [code ']'])
  | obj members => code '\x7b' :: (membersBytes [] members ++ [code '\x7d'])
  | scalar => Utf8.encode scalar.text.toList

def itemsBytes (gap : List UInt8) : List Json → List UInt8
  | [] => []
  | v :: vs => gap ++ (v.bytes ++ itemsBytes [code ','] vs)

def membersBytes (gap : List UInt8) : List (String × Json) → List UInt8
  | [] => []
  | (name, v) :: ms => gap ++ (quotedBytes name ++ code ':' :: (v.bytes ++ membersBytes [code ','] ms))

end

theorem encode_quoted (s : String) : Utf8.encode (quoted s).toList = quotedBytes s := by
  have hpush : ∀ (cs : List Char) (out : String), (cs.foldl String.push out).toList = out.toList ++ cs := by
    intro cs
    induction cs with
    | nil => simp
    | cons c cs ih => simp [ih]
  have hfold : ∀ (cs : List Char) (out : String),
      (cs.foldl (fun out c => (escapedChar c).foldl String.push out) out).toList =
        out.toList ++ cs.flatMap escapedChar := by
    intro cs
    induction cs with
    | nil => simp
    | cons c cs ih => simp [ih, hpush]
  unfold quoted quotedBytes
  rw [String.toList_push, String.foldl_eq_foldl_toList, hfold]
  simp only [Utf8.encode_append]
  rfl

mutual

theorem encode_write (out : String) : (v : Json) →
    Utf8.encode (write out v).toList = Utf8.encode out.toList ++ v.bytes
  | null => by simp [write, bytes, text, Utf8.encode_append]
  | bool true => by simp [write, bytes, text, Utf8.encode_append]
  | bool false => by simp [write, bytes, text, Utf8.encode_append]
  | int n => by simp [write, bytes, text, Utf8.encode_append]
  | decimal s => by simp [write, bytes, text, Utf8.encode_append]
  | str s => by
    rw [write, String.toList_append, Utf8.encode_append, encode_quoted, bytes]
  | arr items => by
    rw [write, String.toList_push, Utf8.encode_append, encode_writeItems (out.push '[') "" items, String.toList_push,
      Utf8.encode_append, bytes, List.append_assoc, List.append_assoc]
    rfl
  | obj members => by
    rw [write, String.toList_push, Utf8.encode_append, encode_writeMembers (out.push '\x7b') "" members,
      String.toList_push, Utf8.encode_append, bytes, List.append_assoc, List.append_assoc]
    rfl
  | unreadable => by simp [write, bytes, text, Utf8.encode_append]
  | misnamed => by simp [write, bytes, text, Utf8.encode_append]

theorem encode_writeItems (out gap : String) : (items : List Json) →
    Utf8.encode (writeItems out gap items).toList =
      Utf8.encode out.toList ++ itemsBytes (Utf8.encode gap.toList) items
  | [] => by rw [writeItems, itemsBytes, List.append_nil]
  | v :: vs => by
    rw [writeItems, encode_writeItems (write (out ++ gap) v) "," vs, encode_write (out ++ gap) v, String.toList_append,
      Utf8.encode_append, itemsBytes, List.append_assoc, List.append_assoc]
    rfl

theorem encode_writeMembers (out gap : String) : (members : List (String × Json)) →
    Utf8.encode (writeMembers out gap members).toList =
      Utf8.encode out.toList ++ membersBytes (Utf8.encode gap.toList) members
  | [] => by rw [writeMembers, membersBytes, List.append_nil]
  | (name, v) :: ms => by
    have hbefore : Utf8.encode (out ++ gap ++ quoted name ++ ":").toList =
        Utf8.encode out.toList ++ (Utf8.encode gap.toList ++ (quotedBytes name ++ [code ':'])) := by
      simp only [String.toList_append, Utf8.encode_append, encode_quoted, List.append_assoc]
      rfl
    rw [writeMembers, encode_writeMembers (write (out ++ gap ++ quoted name ++ ":") v) "," ms,
      encode_write (out ++ gap ++ quoted name ++ ":") v, hbefore, membersBytes]
    simp only [List.append_assoc, List.cons_append, List.nil_append]
    rfl

end

theorem toList_toUTF8_text (v : Json) : v.text.toUTF8.toList = v.bytes := by
  rw [Utf8.toList_toUTF8]
  exact encode_write "" v

end StatusTimeline.Json
