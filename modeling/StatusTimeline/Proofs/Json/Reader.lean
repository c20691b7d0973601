import StatusTimeline.Json.Reader
import StatusTimeline.Proofs.Json.Token

/-!
This module contains the proof that the text of a JSON value is read as that value. Every value that is written leads the
reading from where a value may come to where that value has been taken in.
-/

namespace StatusTimeline.Json

/--
The values that a text can hold as they are: whole numbers have 64 bits, and nothing is unreadable.
-/
inductive Plain : Json → Prop
  | null : Plain null
  | bool (b : Bool) : Plain (bool b)
  | int {n : Int} (least : -signedBound ≤ n) (most : n < UInt64.size) : Plain (int n)
  | str (s : String) : Plain (str s)
  | arr {items : List Json} (h : ∀ v ∈ items, Plain v) : Plain (arr items)
  | obj {members : List (String × Json)} (h : ∀ m ∈ members, Plain m.2) : Plain (obj members)

/--
What reading comes to from a step on.
-/
def Step.proceed (p : Progress) (n : Nat) (rest : List UInt8) : Step → Reading
  | more q => read.go n q rest
  | finished v => .whole v rest
  | wrong => .broken (seen p.frames)

/--
Reading some bytes, it comes to a step with only the rest of the bytes left. There are always more steps allowed than
there are bytes left.
-/
def Leads (p : Progress) (bs : List UInt8) (s : Step) (rest : List UInt8) : Prop :=
  ∀ n, bs.length < n → ∃ m, rest.length < m ∧ read.go n p bs = s.proceed p m rest

namespace Leads

variable {p q : Progress} {bs bs' rest : List UInt8} {s : Step}

theorem token {t : Token} (htoken : nextToken bs = some (t, rest)) (hshorter : rest.length < bs.length) :
    Leads p bs (p.step t) rest := by
  intro n hn
  cases n with
  | zero => cases hn
  | succ n =>
    refine ⟨n, by omega, ?_⟩
    rw [read.go, htoken]
    dsimp only
    cases p.step t <;> rfl

theorem trans (h : Leads p bs (.more q) bs') (h' : Leads q bs' s rest) (hs : s ≠ .wrong) : Leads p bs s rest := by
  intro n hn
  obtain ⟨m, hm, hgo⟩ := h n hn
  obtain ⟨k, hk, hgo'⟩ := h' m hm
  refine ⟨k, hk, ?_⟩
  rw [hgo]
  show read.go m q bs' = _
  rw [hgo']
  cases s with
  | more _ => rfl
  | finished _ => rfl
  | wrong => exact absurd rfl hs

/--
A sign of punctuation is a token of one byte.
-/
theorem sign {b : UInt8} (t : Token) (htoken : nextToken (b :: rest) = some (t, rest)) (hstep : p.step t = s) :
    Leads p (b :: rest) s rest :=
  hstep ▸ token htoken (Nat.lt_succ_self _)

end Leads

theorem put_ne_wrong (p : Progress) (v : Json) : p.put v ≠ .wrong := by
  unfold Progress.put
  split <;> exact nofun

/--
From wherever a value may come, the bytes of this value lead to where it has been taken in.
-/
def Taken (v : Json) : Prop :=
  ∀ (p : Progress) (rest : List UInt8), p.expected = .value ∨ p.expected = .valueOrEnd → Ends rest →
    Leads p (v.bytes ++ rest) (p.put v) rest

/--
Where a value may come, every token starts one, unless it ends an array.
-/
theorem step_startValue {p : Progress} (hp : p.expected = .value ∨ p.expected = .valueOrEnd) {t : Token}
    (ht : t ≠ .closeArray) : p.step t = p.startValue t := by
  cases hp with
  | inl hp =>
    unfold Progress.step
    rw [hp]
  | inr hp =>
    unfold Progress.step
    rw [hp]
    cases t with
    | closeArray => exact absurd rfl ht
    | _ => rfl

/--
A value of one token is taken in at once.
-/
theorem taken_token {v : Json} {t : Token} (hne : v.bytes ≠ [])
    (htoken : ∀ rest, Ends rest → nextToken (v.bytes ++ rest) = some (t, rest)) (ht : t ≠ .closeArray)
    (hput : ∀ p : Progress, p.startValue t = p.put v) : Taken v := by
  intro p rest hp hrest
  rw [← hput p, ← step_startValue hp ht]
  apply Leads.token (htoken rest hrest)
  have hlength := List.length_pos_iff.2 hne
  rw [List.length_append]
  omega

theorem ends_items (vs : List Json) (rest : List UInt8) : Ends (itemsBytes [code ','] vs ++ code ']' :: rest) := by
  cases vs with
  | nil => exact ends_cons (.inr (.inl rfl)) _
  | cons v vs => exact ends_cons (.inl rfl) _

theorem ends_members (ms : List (String × Json)) (rest : List UInt8) :
    Ends (membersBytes [code ','] ms ++ code '\x7d' :: rest) := by
  cases ms with
  | nil => exact ends_cons (.inr (.inr rfl)) _
  | cons m ms => exact ends_cons (.inl rfl) _

/--
The rest of an array leads to where the whole of it has been taken in.
-/
theorem leads_items {vs : List Json} (h : ∀ v ∈ vs, Taken v) (items : List Json) (outer : List Frame)
    (rest : List UInt8) :
    Leads { frames := .array items :: outer, expected := .commaOrEnd } (itemsBytes [code ','] vs ++ code ']' :: rest)
      (Progress.put { frames := outer } (arr (items.reverse ++ vs))) rest := by
  induction vs generalizing items with
  | nil =>
    rw [List.append_nil]
    exact .sign .closeArray rfl rfl
  | cons v vs ih =>
    rw [List.forall_mem_cons] at h
    have hcomma : Leads { frames := .array items :: outer, expected := .commaOrEnd }
        (code ',' :: (v.bytes ++ (itemsBytes [code ','] vs ++ code ']' :: rest)))
        (.more { frames := .array items :: outer, expected := .value })
        (v.bytes ++ (itemsBytes [code ','] vs ++ code ']' :: rest)) := .sign .comma rfl rfl
    have hvalue := h.1 { frames := .array items :: outer, expected := .value } _ (.inl rfl) (ends_items vs rest)
    have hrest := ih h.2 (v :: items)
    rw [List.reverse_cons, List.append_assoc] at hrest
    have hbytes : itemsBytes [code ','] (v :: vs) ++ code ']' :: rest =
        code ',' :: (v.bytes ++ (itemsBytes [code ','] vs ++ code ']' :: rest)) := by
      rw [itemsBytes, List.append_assoc, List.append_assoc]
      rfl
    rw [hbytes]
    exact hcomma.trans (hvalue.trans hrest (put_ne_wrong _ _)) (put_ne_wrong _ _)

theorem taken_arr {items : List Json} (h : ∀ v ∈ items, Taken v) : Taken (arr items) := by
  intro p rest hp hrest
  rw [bytes, List.cons_append, List.append_assoc]
  have hopen : Leads p (code '[' :: (itemsBytes [] items ++ ([code ']'] ++ rest)))
      (.more { frames := .array [] :: p.frames, expected := .valueOrEnd })
      (itemsBytes [] items ++ ([code ']'] ++ rest)) :=
    .sign .openArray rfl (step_startValue hp nofun)
  refine hopen.trans ?_ (put_ne_wrong _ _)
  cases items with
  | nil => exact .sign .closeArray rfl rfl
  | cons v vs =>
    rw [List.forall_mem_cons] at h
    have hvalue := h.1 { frames := .array [] :: p.frames, expected := .valueOrEnd } _ (.inr rfl) (ends_items vs rest)
    rw [itemsBytes, List.nil_append, List.append_assoc]
    exact hvalue.trans (leads_items h.2 [v] p.frames rest) (put_ne_wrong _ _)

/--
A member leads from where its name may come to where it has been added to its object.
-/
theorem leads_member (name : String) {v : Json} (h : Taken v) {e : Expected} (he : e = .name ∨ e = .nameOrEnd)
    (members : List (String × Json)) (outer : List Frame) {rest : List UInt8} (hrest : Ends rest) :
    Leads { frames := .object members none false :: outer, expected := e }
      (quotedBytes name ++ code ':' :: (v.bytes ++ rest))
      (.more { frames := .object ((name, v) :: members) none false :: outer, expected := .commaOrEnd }) rest := by
  have hname : Leads { frames := .object members none false :: outer, expected := e }
      (quotedBytes name ++ code ':' :: (v.bytes ++ rest))
      (.more { frames := .object members (some name) false :: outer, expected := .colon })
      (code ':' :: (v.bytes ++ rest)) := by
    have hstep : Progress.step { frames := .object members none false :: outer, expected := e } (.text (some name)) =
        .more { frames := .object members (some name) false :: outer, expected := .colon } := by
      obtain rfl | rfl := he <;> rfl
    rw [← hstep]
    apply Leads.token (nextToken_quoted name _)
    simp only [quotedBytes, List.length_append, List.length_cons]
    omega
  have hcolon : Leads { frames := .object members (some name) false :: outer, expected := .colon }
      (code ':' :: (v.bytes ++ rest)) (.more { frames := .object members (some name) false :: outer, expected := .value })
      (v.bytes ++ rest) := .sign .colon rfl rfl
  have hvalue := h { frames := .object members (some name) false :: outer, expected := .value } rest (.inl rfl) hrest
  exact hname.trans (hcolon.trans hvalue nofun) nofun

/--
The rest of an object leads to where the whole of it has been taken in.
-/
theorem leads_members {ms : List (String × Json)} (h : ∀ m ∈ ms, Taken m.2) (members : List (String × Json))
    (outer : List Frame) (rest : List UInt8) :
    Leads { frames := .object members none false :: outer, expected := .commaOrEnd }
      (membersBytes [code ','] ms ++ code '\x7d' :: rest)
      (Progress.put { frames := outer } (obj (members.reverse ++ ms))) rest := by
  induction ms generalizing members with
  | nil =>
    rw [List.append_nil]
    exact .sign .closeObject rfl rfl
  | cons m ms ih =>
    obtain ⟨name, v⟩ := m
    rw [List.forall_mem_cons] at h
    have hcomma : Leads { frames := .object members none false :: outer, expected := .commaOrEnd }
        (code ',' :: (quotedBytes name ++ code ':' :: (v.bytes ++ (membersBytes [code ','] ms ++ code '\x7d' :: rest))))
        (.more { frames := .object members none false :: outer, expected := .name })
        (quotedBytes name ++ code ':' :: (v.bytes ++ (membersBytes [code ','] ms ++ code '\x7d' :: rest))) :=
      .sign .comma rfl rfl
    have hmember := leads_member name h.1 (.inl rfl) members outer (ends_members ms rest)
    have hrest := ih h.2 ((name, v) :: members)
    rw [List.reverse_cons, List.append_assoc] at hrest
    have hbytes : membersBytes [code ','] ((name, v) :: ms) ++ code '\x7d' :: rest = code ',' ::
        (quotedBytes name ++ code ':' :: (v.bytes ++ (membersBytes [code ','] ms ++ code '\x7d' :: rest))) := by
      simp only [membersBytes, List.append_assoc, List.cons_append, List.nil_append]
    rw [hbytes]
    exact hcomma.trans (hmember.trans hrest (put_ne_wrong _ _)) (put_ne_wrong _ _)

theorem taken_obj {members : List (String × Json)} (h : ∀ m ∈ members, Taken m.2) : Taken (obj members) := by
  intro p rest hp hrest
  rw [bytes, List.cons_append, List.append_assoc]
  have hopen : Leads p (code '\x7b' :: (membersBytes [] members ++ ([code '\x7d'] ++ rest)))
      (.more { frames := .object [] none false :: p.frames, expected := .nameOrEnd })
      (membersBytes [] members ++ ([code '\x7d'] ++ rest)) :=
    .sign .openObject rfl (step_startValue hp nofun)
  refine hopen.trans ?_ (put_ne_wrong _ _)
  cases members with
  | nil => exact .sign .closeObject rfl rfl
  | cons m ms =>
    obtain ⟨name, v⟩ := m
    rw [List.forall_mem_cons] at h
    have hmember := leads_member name h.1 (.inr rfl) [] p.frames (ends_members ms rest)
    rw [membersBytes, List.nil_append, List.append_assoc, List.cons_append, List.append_assoc]
    exact hmember.trans (leads_members h.2 [(name, v)] p.frames rest) (put_ne_wrong _ _)

theorem Plain.taken {v : Json} (h : v.Plain) : Taken v := by
  induction h with
  | null => exact taken_token (by decide) (fun _ _ => nextToken_null) nofun fun _ => rfl
  | bool b => exact taken_token (by cases b <;> decide) (fun _ _ => nextToken_bool b) nofun fun _ => rfl
  | @int n least most =>
    have hne : (Json.int n).bytes ≠ [] := by
      intro hnil
      have htoken : nextToken ((Json.int n).bytes ++ []) = _ := nextToken_int least most nofun
      rw [hnil] at htoken
      cases htoken
    exact taken_token hne (fun _ => nextToken_int least most) nofun fun _ => rfl
  | str s => exact taken_token nofun (fun rest _ => nextToken_quoted s rest) nofun fun _ => rfl
  | arr _ ih => exact taken_arr ih
  | obj _ ih => exact taken_obj ih

/--
The text of a plain value is read as that value.
-/
theorem Plain.ofText?_text {v : Json} (h : v.Plain) : ofText? v.text = some v := by
  have hread : read v.bytes = .whole v [] := by
    obtain ⟨m, _, hgo⟩ := h.taken {} [] (.inl rfl) nofun (v.bytes.length + 1) (by simp)
    rw [List.append_nil] at hgo
    exact hgo
  unfold ofText? ofBytes?
  rw [toList_toUTF8_text, hread]
  rfl

end StatusTimeline.Json
