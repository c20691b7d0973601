import StatusTimeline.Json.Record

/-!
This module contains the fields that a layout picks from the members of an object, and the reading of single fields.
-/

namespace StatusTimeline

namespace Fit

@[simp] theorem ok_bind (a : α) (f : α → Fit β) : (Except.ok a : Fit α) >>= f = f a := pure_bind a f

theorem toOption_bind (x : Fit α) (f : α → Fit β) : (x >>= f).toOption = x.toOption.bind fun a => (f a).toOption := by
  cases x <;> rfl

theorem toOption_map (f : α → β) (x : Fit α) : (f <$> x).toOption = x.toOption.map f := by
  cases x <;> rfl

end Fit

namespace Layout

variable {names : List String} {check : String → Json → Fit Unit}

/--
Members of other names have no effect, wherever they stand.
-/
theorem pick_filter {q : String × Json → Bool} (hq : ∀ f, f.1 ∈ names → q f = true) (picked : Fields)
    (members : List (String × Json)) : pick names check picked (members.filter q) = pick names check picked members := by
  induction members generalizing picked with
  | nil => rfl
  | cons f members ih =>
    by_cases hf : f.1 ∈ names
    . rw [List.filter_cons_of_pos (hq f hf)]
      simp only [pick, hf, if_true, ih]
    . simp only [pick, hf, if_false]
      rw [← ih, List.filter_cons]
      split
      . simp only [pick, hf, if_false]
      . rfl

/--
Members of known names are picked as they are, unless two have one name.
-/
theorem pick_known {members : List (String × Json)} (h : ∀ m ∈ members, m.1 ∈ names) {picked : Fields}
    (hpicked : (picked.map (·.1)).Nodup) :
    pick names (fun _ _ => .ok ()) picked members =
      if ((picked.reverse ++ members : Fields).map (·.1)).Nodup then .ok (picked.reverse ++ members)
      else .error .shape := by
  induction members generalizing picked with
  | nil =>
    have hnodup : ((picked.reverse ++ [] : Fields).map (·.1)).Nodup := by
      rw [List.append_nil, List.map_reverse]
      exact List.pairwise_reverse.2 (hpicked.imp Ne.symm)
    rw [if_pos hnodup, List.append_nil]
    rfl
  | cons m members ih =>
    rw [List.forall_mem_cons] at h
    simp only [pick, h.1, if_true]
    by_cases hmem : m.1 ∈ picked.map (·.1)
    . have hany : picked.any (·.1 = m.1) = true := by
        obtain ⟨f, hf, hname⟩ := List.mem_map.1 hmem
        exact List.any_eq_true.2 ⟨f, hf, decide_eq_true hname⟩
      have htwice : ¬ ((picked.reverse ++ m :: members : Fields).map (·.1)).Nodup := by
        rw [List.map_append, List.nodup_append]
        rintro ⟨_, _, hapart⟩
        exact hapart m.1 (by simpa using hmem) m.1 (by simp) rfl
      rw [if_pos hany, if_neg htwice]
    . have hany : picked.any (·.1 = m.1) = false := by
        apply List.any_eq_false.2
        intro f hf hname
        exact hmem (List.mem_map.2 ⟨f, hf, of_decide_eq_true hname⟩)
      rw [hany, if_neg Bool.false_ne_true]
      have hrest : pick names _ (m :: picked) members = _ := ih h.2 (List.nodup_cons.2 ⟨hmem, hpicked⟩)
      rw [List.reverse_cons, List.append_assoc] at hrest
      exact hrest

/--
The members of known names.
-/
def known (l : Layout) (members : List (String × Json)) : Fields := members.filter (·.1 ∈ l.names)

/--
The fields of an object are its members of known names, unless two have one name.
-/
theorem fields_obj (l : Layout) (members : List (String × Json)) :
    l.fields (.obj members) =
      if ((l.known members).map (·.1)).Nodup then .ok (l.known members) else .error .shape := by
  have hknown : ∀ m ∈ l.known members, m.1 ∈ l.names := by
    intro m hm
    exact of_decide_eq_true (List.mem_filter.1 hm).2
  have hpick : pick l.names _ [] (l.known members) = _ := pick_known hknown .nil
  rw [fields, fieldsChecked, ← pick_filter (fun _ => decide_eq_true)]
  exact hpick

theorem known_perm {members members' : List (String × Json)} (h : members.Perm members') (l : Layout) :
    (l.known members).Perm (l.known members') := h.filter _

theorem known_cons_of_mem {l : Layout} {name : String} (h : name ∈ l.names) (v : Json) (members : List (String × Json)) :
    l.known ((name, v) :: members) = (name, v) :: l.known members :=
  List.filter_cons_of_pos (decide_eq_true h)

theorem known_cons_of_not_mem {l : Layout} {name : String} (h : name ∉ l.names) (v : Json)
    (members : List (String × Json)) : l.known ((name, v) :: members) = l.known members :=
  List.filter_cons_of_neg (by simpa using h)

end Layout

namespace Json

theorem asOption_of_ne_null {v : Json} (h : v ≠ null) (read : Json → Fit α) : asOption read v = some <$> read v := by
  unfold asOption
  split
  . exact absurd rfl h
  . rfl

theorem asOption_ofOption {f : α → Json} {read : Json → Fit α} {o : Option α} (hnull : ∀ a, f a ≠ null)
    (hread : ∀ a ∈ o, read (f a) = .ok a) : asOption read (ofOption f o) = .ok o := by
  cases o with
  | none => rfl
  | some a =>
    rw [ofOption, asOption_of_ne_null (hnull a), hread a rfl]
    rfl

end Json

namespace Fields

variable {name other : String} {v : Json} {fs fs' : Fields}

theorem get?_cons (name other : String) (v : Json) (fs : Fields) :
    get? ((other, v) :: fs) name = if other = name then some v else fs.get? name := by
  unfold get?
  rw [List.find?_cons]
  split <;> simp_all

theorem get?_eq_none (h : name ∉ fs.map (·.1)) : fs.get? name = none := by
  unfold get?
  rw [Option.map_eq_none_iff, List.find?_eq_none]
  intro f hf hname
  exact h (List.mem_map.2 ⟨f, hf, of_decide_eq_true hname⟩)

/--
The order of fields of different names is nothing that reading sees.
-/
theorem get?_perm (h : fs.Perm fs') (hnodup : (fs.map (·.1)).Nodup) (name : String) : fs.get? name = fs'.get? name := by
  induction h with
  | nil => rfl
  | cons f _ ih =>
    rw [get?_cons, get?_cons, ih (List.nodup_cons.1 hnodup).2]
  | swap f g fs =>
    have hne : g.1 ≠ f.1 := fun heq => (List.nodup_cons.1 hnodup).1 (List.mem_cons.2 (.inl heq))
    rw [get?_cons, get?_cons, get?_cons, get?_cons]
    split
    . next hg => rw [if_neg fun hf => hne (hg.trans hf.symm)]
    . rfl
  | trans h _ ih ih' => exact (ih hnodup).trans (ih' ((h.map _).nodup_iff.1 hnodup))

@[simp] theorem required_cons_self (read : Json → Fit α) : required ((name, v) :: fs) name read = read v := by
  simp [required, get?]

@[simp] theorem required_cons_of_ne (h : other ≠ name) (read : Json → Fit α) :
    required ((other, v) :: fs) name read = required fs name read := by
  simp [required, get?, h]

@[simp] theorem optional_nil (read : Json → Fit α) : optional [] name read = .ok none := rfl

theorem optional_eq (fs : Fields) (name : String) (read : Json → Fit α) :
    fs.optional name read = ((fs.get? name).map (Json.asOption read)).getD (.ok none) := by
  unfold optional
  cases fs.get? name with
  | none => rfl
  | some v => cases v <;> rfl

@[simp] theorem optional_cons_self (read : Json → Fit α) :
    optional ((name, v) :: fs) name read = Json.asOption read v := by
  rw [optional_eq, get?_cons, if_pos rfl]
  rfl

@[simp] theorem optional_cons_of_ne (h : other ≠ name) (read : Json → Fit α) :
    optional ((other, v) :: fs) name read = optional fs name read := by
  simp [optional, get?, h]

end Fields

end StatusTimeline
