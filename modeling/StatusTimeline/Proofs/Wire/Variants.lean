import StatusTimeline.Proofs.Wire.Forms

/-!
This module contains the ways in which the form of a value can be changed without changing what is read: the order of the
members of an object, members of unknown names, nulls for optional fields, and the same inside the parts of a value.
-/

namespace StatusTimeline

/--
The names that mean something in a violation with these members: that of the kind, and those of the fields of its kind.
-/
def Violation.names (members : List (String × Json)) : List String :=
  kindName :: (members.filter (·.1 = kindName)).flatMap fun m =>
    match m.2 with
    | .str kind => ((layouts.find? (·.1 = kind)).map (·.2)).getD []
    | _ => []

namespace Wire

def layout? : Wire → Option Layout
  | interval => some Interval.layout
  | newInterval => some NewInterval.layout
  | changeRequest => some ChangeRequest.layout
  | pointerUpdate => some PointerUpdate.layout
  | actor => some Actor.layout
  | statusChange => some StatusChange.layout
  | endRepair => some EndRepair.layout
  | deletionOutcome => some DeletionOutcome.layout
  | auditReport => some AuditReport.layout
  | pageQuery => some PageQuery.layout
  | violation => none
  | finding => none
  | findings => none

/--
The names that mean something in an object with these members.
-/
def names (w : Wire) (members : List (String × Json)) : List String :=
  match w.layout? with
  | some l => l.names
  | none => Violation.names members

/--
The fields that may be left out.
-/
def optionals : Wire → List String
  | interval => ["ends_at", "root_cause", "created_by_user_id"]
  | newInterval => ["starts_at", "root_cause", "created_by_user_id"]
  | changeRequest => ["monitor_id", "status_id", "starts_at", "root_cause", "created_by_user_id", "actor"]
  | statusChange => ["closed_prior"]
  | endRepair => ["ends_at"]
  | deletionOutcome => ["repair", "pointer"]
  | auditReport => ["open_interval"]
  | pageQuery => ["limit", "offset"]
  | _ => []

/--
The fields that hold a value with members of its own.
-/
def parts : Wire → List (String × Wire)
  | statusChange => [("interval", interval), ("pointer", pointerUpdate)]
  | deletionOutcome => [("deleted", interval), ("repair", endRepair), ("pointer", pointerUpdate)]
  | auditReport => [("violations", findings)]
  | _ => []

/--
How many arrays and objects a violation lies in.
-/
def enclosing : Wire → Nat
  | finding => 2
  | _ => 0

/--
Whether a member of an unknown name may hold a value. Only violations are particular about it: all of them must be
readable and nest no deeper than is kept.
-/
def Bears (w : Wire) (v : Json) : Prop :=
  w.layout?.isNone → v.readable = true ∧ w.enclosing + (v.depth + 1) ≤ Violation.deepest

/--
Forms that differ only in what has no effect.
-/
inductive Variant : Wire → Json → Json → Prop
  | refl (w : Wire) (v : Json) : Variant w v v
  | symm {w : Wire} {v v' : Json} : Variant w v v' → Variant w v' v
  | trans {w : Wire} {v v' v'' : Json} : Variant w v v' → Variant w v' v'' → Variant w v v''
  | permuted (w : Wire) {members members' : List (String × Json)} :
    members.Perm members' → Variant w (.obj members) (.obj members')
  | unknown {w : Wire} {name : String} {v : Json} {members : List (String × Json)} :
    name ∉ w.names members → w.Bears v → Variant w (.obj members) (.obj ((name, v) :: members))
  | absent {w : Wire} {name : String} {members : List (String × Json)} :
    name ∈ w.optionals → name ∉ members.map (·.1) → Variant w (.obj members) (.obj ((name, .null) :: members))
  | part {w p : Wire} {name : String} {v v' : Json} (members : List (String × Json)) :
    (name, p) ∈ w.parts → Variant p v v' → Variant w (.obj ((name, v) :: members)) (.obj ((name, v') :: members))
  | item {v v' : Json} (before after : List Json) :
    Variant finding v v' → Variant findings (.arr (before ++ v :: after)) (.arr (before ++ v' :: after))

theorem Variant.eq_null_iff {w : Wire} {v v' : Json} (h : w.Variant v v') : v = .null ↔ v' = .null := by
  induction h with
  | refl => exact Iff.rfl
  | symm _ ih => exact ih.symm
  | trans _ _ ih ih' => exact ih.trans ih'
  | _ => exact ⟨nofun, nofun⟩

section Records

/--
Values of a field that are read alike, in two objects of which the other may have a null where one has nothing.
-/
inductive Alike (w : Wire) (name : String) : Option Json → Option Json → Prop
  | same (x : Option Json) : Alike w name x x
  | absent : name ∈ w.optionals → Alike w name none (some .null)
  | part {p : Wire} {v v' : Json} : (name, p) ∈ w.parts → (p.ofJson v).toOption = (p.ofJson v').toOption →
    (v = .null ↔ v' = .null) → Alike w name (some v) (some v')

def Agree (w : Wire) (fs fs' : Fields) : Prop := ∀ name, w.Alike name (fs.get? name) (fs'.get? name)

theorem parts_inj {w p p' : Wire} {name : String} (h : (name, p) ∈ w.parts) (h' : (name, p') ∈ w.parts) : p = p' := by
  cases w <;> simp [parts] at h h' <;> grind

namespace Agree

variable {w : Wire} {fs fs' : Fields}

theorem required (h : w.Agree fs fs') {name : String} (hoptional : name ∉ w.optionals)
    (hpart : name ∉ w.parts.map (·.1)) (read : Json → Fit α) : fs.required name read = fs'.required name read := by
  have hget : fs.get? name = fs'.get? name := by
    generalize hx : fs.get? name = x
    generalize hy : fs'.get? name = y
    cases hx ▸ hy ▸ h name with
    | same => rfl
    | absent hmem => exact absurd hmem hoptional
    | part hmem => exact absurd (List.mem_map_of_mem hmem) hpart
  unfold Fields.required
  rw [hget]

theorem optional (h : w.Agree fs fs') {name : String} (hpart : name ∉ w.parts.map (·.1)) (read : Json → Fit α) :
    fs.optional name read = fs'.optional name read := by
  unfold Fields.optional
  generalize hx : fs.get? name = x
  generalize hy : fs'.get? name = y
  cases hx ▸ hy ▸ h name with
  | same => rfl
  | absent => rfl
  | part hmem => exact absurd (List.mem_map_of_mem hmem) hpart

theorem part (h : w.Agree fs fs') {name : String} {p : Wire} (hpart : (name, p) ∈ w.parts)
    (hoptional : name ∉ w.optionals) :
    (fs.required name p.ofJson).toOption = (fs'.required name p.ofJson).toOption := by
  unfold Fields.required
  generalize hx : fs.get? name = x
  generalize hy : fs'.get? name = y
  cases hx ▸ hy ▸ h name with
  | same => rfl
  | absent hmem => exact absurd hmem hoptional
  | part hmem hread =>
    obtain rfl := parts_inj hpart hmem
    exact hread

theorem optionalPart (h : w.Agree fs fs') {name : String} {p : Wire} (hpart : (name, p) ∈ w.parts) :
    (fs.optional name p.ofJson).toOption = (fs'.optional name p.ofJson).toOption := by
  rw [Fields.optional_eq, Fields.optional_eq]
  generalize hx : fs.get? name = x
  generalize hy : fs'.get? name = y
  cases hx ▸ hy ▸ h name with
  | same => rfl
  | absent => rfl
  | @part _ v v' hmem hread hnull =>
    obtain rfl := parts_inj hpart hmem
    show (Json.asOption p.ofJson v).toOption = (Json.asOption p.ofJson v').toOption
    by_cases hv : v = .null
    . rw [hv, hnull.1 hv]
    . rw [Json.asOption_of_ne_null hv, Json.asOption_of_ne_null (mt hnull.2 hv), Fit.toOption_map, Fit.toOption_map,
        hread]

end Agree

/--
Reading depends on the fields only, and on nothing in which these agree.
-/
theorem ofJson_of_agree {w : Wire} {l : Layout} (hl : w.layout? = some l) {v v' : Json} {fs fs' : Fields}
    (hfields : l.fields v = .ok fs) (hfields' : l.fields v' = .ok fs') (h : w.Agree fs fs') :
    (w.ofJson v).toOption = (w.ofJson v').toOption := by
  cases w with
  | statusChange =>
    cases hl
    have hinterval := h.part (p := interval) (.head _) (by decide)
    have hpointer := h.part (p := pointerUpdate) (.tail _ (.head _)) (by decide)
    simp only [ofJson] at hinterval hpointer
    simp (disch := decide) only [ofJson, StatusChange.ofJson, hfields, hfields', Fit.ok_bind, Fit.toOption_bind,
      hinterval, hpointer, h.optional]
  | deletionOutcome =>
    cases hl
    have hdeleted := h.part (p := interval) (.head _) (by decide)
    have hrepair := h.optionalPart (p := endRepair) (.tail _ (.head _))
    have hpointer := h.optionalPart (p := pointerUpdate) (.tail _ (.tail _ (.head _)))
    simp only [ofJson] at hdeleted hrepair hpointer
    simp only [ofJson, DeletionOutcome.ofJson, hfields, hfields', Fit.ok_bind, Fit.toOption_bind, hdeleted, hrepair,
      hpointer]
  | auditReport =>
    cases hl
    have hviolations := h.part (p := findings) (.head _) (by decide)
    simp only [ofJson] at hviolations
    simp (disch := decide) only [ofJson, AuditReport.ofJson, hfields, hfields', Fit.ok_bind, Fit.toOption_bind,
      hviolations, h.required, h.optional]
  | violation => cases hl
  | finding => cases hl
  | findings => cases hl
  | _ =>
    cases hl
    simp (disch := decide) only [ofJson, Interval.ofJson, NewInterval.ofJson, ChangeRequest.ofJson, PointerUpdate.ofJson,
      Actor.ofJson, EndRepair.ofJson, PageQuery.ofJson, hfields, hfields', Fit.ok_bind, h.required, h.optional]

theorem ofJson_of_error {w : Wire} {l : Layout} (hl : w.layout? = some l) {v : Json} {e : Misfit}
    (h : l.fields v = .error e) : w.ofJson v = .error e := by
  cases w with
  | violation => cases hl
  | finding => cases hl
  | findings => cases hl
  | _ =>
    cases hl
    simp only [ofJson, Interval.ofJson, NewInterval.ofJson, ChangeRequest.ofJson, PointerUpdate.ofJson, Actor.ofJson,
      StatusChange.ofJson, EndRepair.ofJson, DeletionOutcome.ofJson, AuditReport.ofJson, PageQuery.ofJson, h]
    rfl

variable {w : Wire} {l : Layout} {members members' : List (String × Json)}

/--
Two objects are read alike when a known name comes twice in both or in neither, and their fields agree.
-/
theorem ofJson_obj (hl : w.layout? = some l)
    (hnodup : ((l.known members).map (·.1)).Nodup ↔ ((l.known members').map (·.1)).Nodup)
    (hagree : ((l.known members).map (·.1)).Nodup → w.Agree (l.known members) (l.known members')) :
    (w.ofJson (.obj members)).toOption = (w.ofJson (.obj members')).toOption := by
  have hfields := l.fields_obj members
  have hfields' := l.fields_obj members'
  by_cases h : ((l.known members).map (·.1)).Nodup
  . rw [if_pos h] at hfields
    rw [if_pos (hnodup.1 h)] at hfields'
    exact ofJson_of_agree hl hfields hfields' (hagree h)
  . rw [if_neg h] at hfields
    rw [if_neg (mt hnodup.2 h)] at hfields'
    rw [ofJson_of_error hl hfields, ofJson_of_error hl hfields']

theorem ofJson_permuted (hl : w.layout? = some l) (h : members.Perm members') :
    (w.ofJson (.obj members)).toOption = (w.ofJson (.obj members')).toOption := by
  have hknown := Layout.known_perm h l
  apply ofJson_obj hl (hknown.map _).nodup_iff
  intro hnodup name
  rw [Fields.get?_perm hknown hnodup]
  exact .same _

theorem ofJson_unknown (hl : w.layout? = some l) {name : String} (h : name ∉ l.names) (v : Json) :
    (w.ofJson (.obj members)).toOption = (w.ofJson (.obj ((name, v) :: members))).toOption := by
  apply ofJson_obj hl
  . rw [Layout.known_cons_of_not_mem h]
  . rw [Layout.known_cons_of_not_mem h]
    exact fun _ _ => .same _

theorem mem_names_of_mem_optionals (hl : w.layout? = some l) {name : String} (h : name ∈ w.optionals) :
    name ∈ l.names := by
  revert name
  cases w <;> cases hl <;> decide

theorem mem_names_of_mem_parts (hl : w.layout? = some l) {name : String} {p : Wire} (h : (name, p) ∈ w.parts) :
    name ∈ l.names := by
  have hall : ∀ part ∈ w.parts, part.1 ∈ l.names := by
    cases w <;> cases hl <;> decide
  exact hall _ h

theorem ofJson_absent (hl : w.layout? = some l) {name : String} (h : name ∈ w.optionals)
    (habsent : name ∉ members.map (·.1)) :
    (w.ofJson (.obj members)).toOption = (w.ofJson (.obj ((name, .null) :: members))).toOption := by
  have hknown : name ∉ (l.known members).map (·.1) := by
    intro hmem
    obtain ⟨m, hm, hname⟩ := List.mem_map.1 hmem
    exact habsent (List.mem_map.2 ⟨m, (List.mem_filter.1 hm).1, hname⟩)
  apply ofJson_obj hl
  . rw [Layout.known_cons_of_mem (mem_names_of_mem_optionals hl h), List.map_cons, List.nodup_cons, and_iff_right hknown]
  . rw [Layout.known_cons_of_mem (mem_names_of_mem_optionals hl h)]
    intro _ other
    rw [Fields.get?_cons]
    split
    . next heq =>
      subst heq
      rw [Fields.get?_eq_none hknown]
      exact .absent h
    . exact .same _

theorem ofJson_part (hl : w.layout? = some l) {name : String} {p : Wire} (h : (name, p) ∈ w.parts) {v v' : Json}
    (hread : (p.ofJson v).toOption = (p.ofJson v').toOption) (hnull : v = .null ↔ v' = .null) :
    (w.ofJson (.obj ((name, v) :: members))).toOption = (w.ofJson (.obj ((name, v') :: members))).toOption := by
  have hmem := mem_names_of_mem_parts hl h
  apply ofJson_obj hl
  . rw [Layout.known_cons_of_mem hmem, Layout.known_cons_of_mem hmem]
    rfl
  . rw [Layout.known_cons_of_mem hmem, Layout.known_cons_of_mem hmem]
    intro _ other
    rw [Fields.get?_cons, Fields.get?_cons]
    split
    . next heq =>
      subst heq
      exact .part h hread hnull
    . exact .same _

end Records

end Wire

namespace Violation

variable {members members' : List (String × Json)}

theorem membersReadable_perm (h : members.Perm members') :
    Json.membersReadable members = Json.membersReadable members' := by
  induction h with
  | nil => rfl
  | cons m _ ih => simp only [Json.membersReadable, ih]
  | swap m n _ => simp only [Json.membersReadable, Bool.and_left_comm]
  | trans _ _ ih ih' => exact ih.trans ih'

theorem membersDepth_perm (h : members.Perm members') : Json.membersDepth members = Json.membersDepth members' := by
  induction h with
  | nil => rfl
  | cons m _ ih => simp only [Json.membersDepth, ih]
  | swap m n _ => simp only [Json.membersDepth, Nat.max_left_comm]
  | trans _ _ ih ih' => exact ih.trans ih'

/--
Whether all of a violation can be kept until its kind is known.
-/
def isKept (enclosing : Nat) (v : Json) : Bool := v.readable && enclosing + v.depth ≤ deepest

/--
The fields of a violation that stands in an object, by its kind.
-/
def ofMembers (members : List (String × Json)) : Fit Violation :=
  match members.filter (·.1 = kindName) with
  | [(_, kind)] => do ofFields (← kind.asText) (.obj (members.filter (·.1 ≠ kindName)))
  | _ => .error .shape

theorem ofJsonWithin_obj (enclosing : Nat) (members : List (String × Json)) :
    ofJsonWithin enclosing (.obj members) =
      if isKept enclosing (.obj members) then ofMembers members else .error .malformed := by
  have hkept : (!(Json.obj members).readable || deepest < enclosing + (Json.obj members).depth) =
      !isKept enclosing (.obj members) := by
    simp only [isKept, Bool.not_and, ← decide_not, Nat.not_le]
  unfold ofJsonWithin
  rw [hkept]
  cases isKept enclosing (.obj members) <;> rfl

theorem ofFields_permuted (h : members.Perm members') (kind : String) :
    ofFields kind (.obj members) = ofFields kind (.obj members') := by
  unfold ofFields
  cases layouts.find? (·.1 = kind) with
  | none => rfl
  | some found =>
    obtain ⟨_, names⟩ := found
    dsimp only
    split
    . rfl
    . have hknown := Layout.known_perm h ⟨names, names.length⟩
      rw [Layout.fields_obj, Layout.fields_obj]
      simp only [(hknown.map (·.1)).nodup_iff]
      split
      . next hnodup =>
        have hget := Fields.get?_perm hknown ((hknown.map _).nodup_iff.2 hnodup)
        simp only [Fit.ok_bind, Fields.required, hget]
      . rfl

theorem ofFields_unknown {kind name : String} (h : ∀ names, layouts.find? (·.1 = kind) = some names → name ∉ names.2)
    (v : Json) : ofFields kind (.obj members) = ofFields kind (.obj ((name, v) :: members)) := by
  unfold ofFields
  cases hfound : layouts.find? (·.1 = kind) with
  | none => rfl
  | some found =>
    obtain ⟨_, names⟩ := found
    have hunknown : name ∉ (⟨names, names.length⟩ : Layout).names := h _ hfound
    dsimp only
    rw [Layout.fields_obj, Layout.fields_obj, Layout.known_cons_of_not_mem hunknown]

theorem ofMembers_permuted (h : members.Perm members') : ofMembers members = ofMembers members' := by
  have hkinds := h.filter (·.1 = kindName)
  have hcontent := h.filter (·.1 ≠ kindName)
  unfold ofMembers
  generalize members.filter (·.1 = kindName) = kinds at hkinds
  generalize members'.filter (·.1 = kindName) = kinds' at hkinds
  match kinds, kinds', hkinds.length_eq with
  | [], [], _ => rfl
  | [m], [m'], _ =>
    obtain rfl := List.singleton_perm_singleton.1 hkinds
    obtain ⟨_, kind⟩ := m
    simp only [ofFields_permuted hcontent]
  | _ :: _ :: _, _ :: _ :: _, _ => rfl

theorem ofMembers_unknown {name : String} (h : name ∉ names members) (v : Json) :
    ofMembers members = ofMembers ((name, v) :: members) := by
  unfold names at h
  rw [List.mem_cons, not_or] at h
  obtain ⟨hkind, h⟩ := h
  have hkinds : ((name, v) :: members).filter (·.1 = kindName) = members.filter (·.1 = kindName) :=
    List.filter_cons_of_neg (by simpa using hkind)
  have hcontent : ((name, v) :: members).filter (·.1 ≠ kindName) = (name, v) :: members.filter (·.1 ≠ kindName) :=
    List.filter_cons_of_pos (by simpa using hkind)
  unfold ofMembers
  rw [hkinds, hcontent]
  generalize members.filter (·.1 = kindName) = kinds at h
  match kinds with
  | [] => rfl
  | [(_, kind)] =>
    cases kind with
    | str s =>
      show ofFields s _ = ofFields s _
      apply ofFields_unknown
      intro found hfound hmem
      apply h
      simpa [hfound] using hmem
    | _ => rfl
  | _ :: _ :: _ => rfl

theorem isKept_permuted (h : members.Perm members') (enclosing : Nat) :
    isKept enclosing (.obj members) = isKept enclosing (.obj members') := by
  have hreadable : (Json.obj members).readable = (Json.obj members').readable := membersReadable_perm h
  have hdepth : (Json.obj members).depth = (Json.obj members').depth := congrArg (· + 1) (membersDepth_perm h)
  unfold isKept
  rw [hreadable, hdepth]

theorem isKept_unknown {enclosing : Nat} {v : Json} (hreadable : v.readable = true)
    (hdepth : enclosing + (v.depth + 1) ≤ deepest) (name : String) :
    isKept enclosing (.obj members) = isKept enclosing (.obj ((name, v) :: members)) := by
  have hsame : (Json.obj ((name, v) :: members)).readable = (Json.obj members).readable := by
    rw [Json.readable, Json.membersReadable, hreadable, Bool.true_and, Json.readable]
  have hmax : enclosing + (Json.obj members).depth ≤ deepest ↔
      enclosing + (Json.obj ((name, v) :: members)).depth ≤ deepest := by
    simp only [Json.depth, Json.membersDepth]
    omega
  unfold isKept
  rw [hsame, decide_eq_decide.2 hmax]

theorem ofJsonWithin_permuted (h : members.Perm members') (enclosing : Nat) :
    ofJsonWithin enclosing (.obj members) = ofJsonWithin enclosing (.obj members') := by
  rw [ofJsonWithin_obj, ofJsonWithin_obj, isKept_permuted h, ofMembers_permuted h]

theorem ofJsonWithin_unknown {enclosing : Nat} {name : String} {v : Json} (h : name ∉ names members)
    (hreadable : v.readable = true) (hdepth : enclosing + (v.depth + 1) ≤ deepest) :
    ofJsonWithin enclosing (.obj members) = ofJsonWithin enclosing (.obj ((name, v) :: members)) := by
  rw [ofJsonWithin_obj, ofJsonWithin_obj, isKept_unknown hreadable hdepth name, ofMembers_unknown h v]

theorem ofJsonWithin_refused {enclosing : Nat} {v : Json}
    (h : ¬ (v.readable = true ∧ enclosing + (v.depth + 1) ≤ deepest)) (name : String) :
    ofJsonWithin enclosing (.obj ((name, v) :: members)) = .error .malformed := by
  have hkept : isKept enclosing (.obj ((name, v) :: members)) = false := by
    apply Bool.eq_false_iff.2
    intro hkept
    obtain ⟨hreadable, hdepth⟩ := (Bool.and_eq_true _ _).mp hkept
    replace hdepth := of_decide_eq_true hdepth
    simp only [Json.readable, Json.membersReadable, Bool.and_eq_true] at hreadable
    simp only [Json.depth, Json.membersDepth] at hdepth
    exact h ⟨hreadable.1, by omega⟩
  rw [ofJsonWithin_obj, hkept]
  rfl

end Violation

namespace Json

theorem asList_item {read : Json → Fit α} {v v' : Json} (h : (read v).toOption = (read v').toOption)
    (before after : List Json) :
    (asList read (arr (before ++ v :: after))).toOption = (asList read (arr (before ++ v' :: after))).toOption := by
  show ((before ++ v :: after).mapM read).toOption = ((before ++ v' :: after).mapM read).toOption
  induction before with
  | nil => simp only [List.nil_append, List.mapM_cons, Fit.toOption_bind, h]
  | cons u before ih => simp only [List.cons_append, List.mapM_cons, Fit.toOption_bind, ih]

end Json

/--
Forms that differ only in what has no effect are read as the same value, or both of them not at all.
-/
theorem Wire.Variant.ofJson_eq {w : Wire} {v v' : Json} (h : w.Variant v v') :
    (w.ofJson v).toOption = (w.ofJson v').toOption := by
  induction h with
  | refl => rfl
  | symm _ ih => exact ih.symm
  | trans _ _ ih ih' => exact ih.trans ih'
  | permuted w hperm =>
    cases hl : w.layout? with
    | some l => exact ofJson_permuted hl hperm
    | none =>
      cases w with
      | violation => exact congrArg Except.toOption (Violation.ofJsonWithin_permuted hperm 0)
      | finding => exact congrArg Except.toOption (Violation.ofJsonWithin_permuted hperm 2)
      | findings => rfl
      | _ => cases hl
  | @unknown w name v members hname hbears =>
    cases hl : w.layout? with
    | some l =>
      rw [names, hl] at hname
      exact ofJson_unknown hl hname v
    | none =>
      rw [names, hl] at hname
      rw [Bears, hl] at hbears
      obtain ⟨hreadable, hdepth⟩ := hbears rfl
      cases w with
      | violation => exact congrArg Except.toOption (Violation.ofJsonWithin_unknown hname hreadable hdepth)
      | finding => exact congrArg Except.toOption (Violation.ofJsonWithin_unknown hname hreadable hdepth)
      | findings => rfl
      | _ => cases hl
  | @absent w name members hname habsent =>
    cases hl : w.layout? with
    | some l => exact ofJson_absent hl hname habsent
    | none => cases w <;> cases hl <;> cases hname
  | @part w p name v v' members hpart hvariant ih =>
    cases hl : w.layout? with
    | some l => exact ofJson_part hl hpart ih hvariant.eq_null_iff
    | none => cases w <;> cases hl <;> cases hpart
  | item before after _ ih => exact Json.asList_item ih before after

/--
A violation with a member that it cannot bear is not read, whatever the name of the member.
-/
theorem Wire.ofJson_refused {w : Wire} {v : Json} (h : ¬ w.Bears v) (name : String) (members : List (String × Json)) :
    (w.ofJson (.obj ((name, v) :: members))).toOption = none := by
  have hborne := Classical.not_imp.1 h
  cases w with
  | violation => exact congrArg Except.toOption (Violation.ofJsonWithin_refused hborne.2 name)
  | finding => exact congrArg Except.toOption (Violation.ofJsonWithin_refused hborne.2 name)
  | findings => rfl
  | _ => cases hborne.1

end StatusTimeline
