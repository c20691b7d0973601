import StatusTimeline.Proofs.Json.Reader
import StatusTimeline.Proofs.Text.Uuid
import StatusTimeline.Proofs.Time.Timestamp
import StatusTimeline.Proofs.Wire.Layout
import StatusTimeline.Wire.Audit
import StatusTimeline.Wire.Values

/-!
This module contains the types of values that have a JSON form, and the proof that every value in range is read from its
form as it was written.
-/

namespace StatusTimeline

def Interval.instants (i : Interval) : List Instant := i.startsAt :: i.createdAt :: i.endsAt.toList

def Violation.instants : Violation → List Instant
  | .gap _ _ endsAt nextStartsAt => [endsAt, nextStartsAt]
  | .overlap _ _ endsAt nextStartsAt => [endsAt, nextStartsAt]
  | _ => []

inductive Wire where
  | interval
  | newInterval
  | changeRequest
  | pointerUpdate
  | actor
  | statusChange
  | endRepair
  | deletionOutcome
  | violation
  | auditReport
  | pageQuery
  /-- A violation where it stands in an audit report, in the list of them. -/
  | finding
  /-- The list of violations in an audit report. -/
  | findings
deriving DecidableEq

namespace Wire

abbrev Value : Wire → Type
  | interval => Interval
  | newInterval => NewInterval
  | changeRequest => ChangeRequest
  | pointerUpdate => PointerUpdate
  | actor => Actor
  | statusChange => StatusChange
  | endRepair => EndRepair
  | deletionOutcome => DeletionOutcome
  | violation => Violation
  | auditReport => AuditReport
  | pageQuery => PageQuery
  | finding => Violation
  | findings => List Violation

def toJson : (w : Wire) → w.Value → Json
  | interval => Interval.toJson
  | newInterval => NewInterval.toJson
  | changeRequest => ChangeRequest.toJson
  | pointerUpdate => PointerUpdate.toJson
  | actor => Actor.toJson
  | statusChange => StatusChange.toJson
  | endRepair => EndRepair.toJson
  | deletionOutcome => DeletionOutcome.toJson
  | violation => Violation.toJson
  | auditReport => AuditReport.toJson
  | pageQuery => PageQuery.toJson
  | finding => Violation.toJson
  | findings => fun vs => .arr (vs.map Violation.toJson)

def ofJson : (w : Wire) → Json → Fit w.Value
  | interval => Interval.ofJson
  | newInterval => NewInterval.ofJson
  | changeRequest => ChangeRequest.ofJson
  | pointerUpdate => PointerUpdate.ofJson
  | actor => Actor.ofJson
  | statusChange => StatusChange.ofJson
  | endRepair => EndRepair.ofJson
  | deletionOutcome => DeletionOutcome.ofJson
  | violation => Violation.ofJson
  | auditReport => AuditReport.ofJson
  | pageQuery => PageQuery.ofJson
  | finding => Violation.ofJsonWithin 2
  | findings => Json.asList (Violation.ofJsonWithin 2)

/--
The instants that a value holds.
-/
def instants : (w : Wire) → w.Value → List Instant
  | interval, i => Interval.instants i
  | newInterval, n => n.startsAt.toList
  | changeRequest, r => r.startsAt.toList
  | pointerUpdate, _ => []
  | actor, _ => []
  | statusChange, c => Interval.instants c.interval
  | endRepair, r => r.endsAt.toList
  | deletionOutcome, o => Interval.instants o.deleted ++ o.repair.toList.flatMap (·.endsAt.toList)
  | violation, v => Violation.instants v
  | auditReport, r => r.violations.flatMap Violation.instants
  | pageQuery, _ => []
  | finding, v => Violation.instants v
  | findings, vs => vs.flatMap Violation.instants

/--
Counts and page windows are numbers of 64 bits.
-/
def Fits : (w : Wire) → w.Value → Prop
  | auditReport, r => r.intervalCount < UInt64.size
  | pageQuery, q => ∀ n ∈ q.limit.toList ++ q.offset.toList, -signedBound ≤ n ∧ n < signedBound
  | _, _ => True

structure InRange (w : Wire) (x : w.Value) : Prop where
  instants : ∀ t ∈ w.instants x, t.Proper
  numbers : w.Fits x

end Wire

namespace Json

@[simp] theorem asText_str (s : String) : asText (str s) = .ok s := rfl

@[simp] theorem asUuid_ofUuid (u : Uuid) : asUuid (ofUuid u) = .ok u := by
  simp only [asUuid, ofUuid, asParsed, Uuid.ofText?_text]

theorem asInstant_ofInstant {t : Instant} (h : t.Proper) : asInstant (ofInstant t) = .ok t := by
  simp only [asInstant, ofInstant, asParsed, Instant.ofText?_text h]

theorem asInt_int {least bound n : Int} (h : least ≤ n ∧ n < bound) : asInt least bound (int n) = .ok n := if_pos h

theorem asNat_ofNat {n : Nat} (h : n < UInt64.size) : asNat (ofNat n) = .ok n := by
  have hint : asInt 0 UInt64.size (int n) = .ok (n : Int) := asInt_int ⟨Int.natCast_nonneg n, Int.ofNat_lt.2 h⟩
  unfold asNat ofNat
  rw [hint]
  rfl

theorem asList_map {f : α → Json} {read : Json → Fit α} {as : List α} (h : ∀ a ∈ as, read (f a) = .ok a) :
    asList read (arr (as.map f)) = .ok as := by
  show (as.map f).mapM read = _
  induction as with
  | nil => rfl
  | cons a as ih =>
    rw [List.forall_mem_cons] at h
    rw [List.map_cons, List.mapM_cons, h.1, ih h.2]
    rfl

@[simp] theorem asOption_ofUuid (o : Option Uuid) : asOption asUuid (ofOption ofUuid o) = .ok o :=
  asOption_ofOption nofun fun u _ => asUuid_ofUuid u

@[simp] theorem asOption_str (o : Option String) : asOption asText (ofOption str o) = .ok o :=
  asOption_ofOption nofun fun s _ => asText_str s

theorem asOption_ofInstant {o : Option Instant} (h : ∀ t ∈ o.toList, t.Proper) :
    asOption asInstant (ofOption ofInstant o) = .ok o :=
  asOption_ofOption nofun fun t ht => asInstant_ofInstant (h t (Option.mem_toList.2 ht))

end Json

section Records

theorem Interval.ofJson_toJson {i : Interval} (h : ∀ t ∈ Interval.instants i, t.Proper) : ofJson i.toJson = .ok i := by
  obtain ⟨id, monitorId, statusId, startsAt, endsAt, createdAt, rootCause, createdBy⟩ := i
  simp only [Interval.instants, List.forall_mem_cons] at h
  obtain ⟨hstartsAt, hcreatedAt, hendsAt⟩ := h
  have hcause : ∀ s, Json.asOption Json.asText (.str s) = .ok (some s) := fun s => Json.asOption_str (some s)
  have hcreator : ∀ u, Json.asOption Json.asUuid (.ofUuid u) = .ok (some u) := fun u => Json.asOption_ofUuid (some u)
  cases rootCause <;> cases createdBy <;>
    simp [ofJson, toJson, layout, Layout.fields_obj, Layout.known, Json.asInstant_ofInstant hstartsAt,
      Json.asInstant_ofInstant hcreatedAt, Json.asOption_ofInstant hendsAt, hcause, hcreator]

theorem NewInterval.ofJson_toJson {n : NewInterval} (h : ∀ t ∈ n.startsAt.toList, t.Proper) :
    ofJson n.toJson = .ok n := by
  simp [ofJson, toJson, layout, Layout.fields_obj, Layout.known, Json.asOption_ofInstant h]

theorem ChangeRequest.ofJson_toJson {r : ChangeRequest} (h : ∀ t ∈ r.startsAt.toList, t.Proper) :
    ofJson r.toJson = .ok r := by
  simp [ofJson, toJson, layout, Layout.fields_obj, Layout.known, Json.asOption_ofInstant h]

theorem PointerUpdate.ofJson_toJson (p : PointerUpdate) : ofJson p.toJson = .ok p := by
  simp [ofJson, toJson, layout, Layout.fields_obj, Layout.known]

theorem Actor.ofJson_toJson (a : Actor) : ofJson a.toJson = .ok a := by
  simp [ofJson, toJson, layout, Layout.fields_obj, Layout.known]

theorem StatusChange.ofJson_toJson {c : StatusChange} (h : ∀ t ∈ Interval.instants c.interval, t.Proper) :
    ofJson c.toJson = .ok c := by
  simp [ofJson, toJson, layout, Layout.fields_obj, Layout.known, Interval.ofJson_toJson h, PointerUpdate.ofJson_toJson]

theorem EndRepair.ofJson_toJson {r : EndRepair} (h : ∀ t ∈ r.endsAt.toList, t.Proper) : ofJson r.toJson = .ok r := by
  simp [ofJson, toJson, layout, Layout.fields_obj, Layout.known, Json.asOption_ofInstant h]

theorem DeletionOutcome.ofJson_toJson {o : DeletionOutcome}
    (h : ∀ t ∈ Interval.instants o.deleted ++ o.repair.toList.flatMap (·.endsAt.toList), t.Proper) :
    ofJson o.toJson = .ok o := by
  rw [List.forall_mem_append] at h
  have hrepair : Json.asOption EndRepair.ofJson (.ofOption EndRepair.toJson o.repair) = .ok o.repair := by
    apply Json.asOption_ofOption nofun
    intro r hr
    apply EndRepair.ofJson_toJson
    intro t ht
    exact h.2 t (List.mem_flatMap.2 ⟨r, Option.mem_toList.2 hr, ht⟩)
  have hpointer : Json.asOption PointerUpdate.ofJson (.ofOption PointerUpdate.toJson o.pointer) = .ok o.pointer :=
    Json.asOption_ofOption nofun fun p _ => p.ofJson_toJson
  simp [ofJson, toJson, layout, Layout.fields_obj, Layout.known, Interval.ofJson_toJson h.1, hrepair, hpointer]

theorem PageQuery.ofJson_toJson {q : PageQuery}
    (h : ∀ n ∈ q.limit.toList ++ q.offset.toList, -signedBound ≤ n ∧ n < signedBound) : ofJson q.toJson = .ok q := by
  rw [List.forall_mem_append] at h
  have hnumber : ∀ {o : Option Int}, (∀ n ∈ o.toList, -signedBound ≤ n ∧ n < signedBound) →
      Json.asOption asSigned (.ofOption .int o) = .ok o := by
    intro o ho
    exact Json.asOption_ofOption nofun fun n hn => Json.asInt_int (ho n (Option.mem_toList.2 hn))
  simp [ofJson, toJson, layout, Layout.fields_obj, Layout.known, hnumber h.1, hnumber h.2]

theorem Violation.readable_toJson (v : Violation) : v.toJson.readable = true := by
  have hids : ∀ ids : List Uuid, Json.itemsReadable (ids.map .ofUuid) = true := by
    intro ids
    induction ids with
    | nil => rfl
    | cons id ids ih => exact ih
  cases v with
  | multipleOpen ids => simp [toJson, Json.readable, Json.membersReadable, hids]
  | _ => rfl

theorem Violation.depth_toJson_le (v : Violation) : v.toJson.depth ≤ 2 := by
  have hids : ∀ ids : List Uuid, Json.itemsDepth (ids.map .ofUuid) = 0 := by
    intro ids
    induction ids with
    | nil => rfl
    | cons id ids ih =>
      show max 0 (Json.itemsDepth (ids.map .ofUuid)) = 0
      rw [ih, Nat.max_self]
  cases v with
  | multipleOpen ids => simp [toJson, Json.depth, Json.membersDepth, hids]
  | _ => exact Nat.le_succ 1

/--
A violation in no more than 125 arrays and objects is read from its form. The form itself nests two deep.
-/
theorem Violation.ofJsonWithin_toJson {v : Violation} {enclosing : Nat} (hdepth : enclosing + 2 ≤ deepest)
    (h : ∀ t ∈ Violation.instants v, t.Proper) : ofJsonWithin enclosing v.toJson = .ok v := by
  have hkept : (!v.toJson.readable || deepest < enclosing + v.toJson.depth) = false := by
    have := v.depth_toJson_le
    rw [v.readable_toJson, Bool.not_true, Bool.false_or, decide_eq_false_iff_not]
    omega
  unfold ofJsonWithin
  rw [hkept]
  cases v with
  | noOpenInterval => rfl
  | multipleOpen ids =>
    have hids : Json.asList Json.asUuid (.arr (ids.map .ofUuid)) = .ok ids :=
      Json.asList_map fun u _ => Json.asUuid_ofUuid u
    simp [toJson, kindName, ofFields, layouts, Layout.fields_obj, Layout.known, hids]
  | openNotLast id => simp [toJson, kindName, ofFields, layouts, Layout.fields_obj, Layout.known]
  | gap before after endsAt nextStartsAt =>
    simp only [Violation.instants, List.forall_mem_cons] at h
    simp [toJson, kindName, ofFields, layouts, Layout.fields_obj, Layout.known, Json.asInstant_ofInstant h.1,
      Json.asInstant_ofInstant h.2.1]
  | overlap before after endsAt nextStartsAt =>
    simp only [Violation.instants, List.forall_mem_cons] at h
    simp [toJson, kindName, ofFields, layouts, Layout.fields_obj, Layout.known, Json.asInstant_ofInstant h.1,
      Json.asInstant_ofInstant h.2.1]

theorem Violation.asList_toJson {vs : List Violation} (h : ∀ t ∈ vs.flatMap Violation.instants, t.Proper) :
    Json.asList (ofJsonWithin 2) (.arr (vs.map toJson)) = .ok vs := by
  apply Json.asList_map
  intro v hv
  apply ofJsonWithin_toJson (by decide)
  intro t ht
  exact h t (List.mem_flatMap.2 ⟨v, hv, ht⟩)

theorem AuditReport.ofJson_toJson {r : AuditReport} (hcount : r.intervalCount < UInt64.size)
    (h : ∀ t ∈ r.violations.flatMap Violation.instants, t.Proper) : ofJson r.toJson = .ok r := by
  simp [ofJson, toJson, layout, Layout.fields_obj, Layout.known, Json.asNat_ofNat hcount, Violation.asList_toJson h]

end Records

section Plain

namespace Json

theorem plain_obj {members : List (String × Json)} : (obj members).Plain ↔ ∀ m ∈ members, m.2.Plain :=
  ⟨fun h => by cases h with | obj h => exact h, .obj⟩

theorem plain_arr_map {f : α → Json} (h : ∀ a, (f a).Plain) (as : List α) : (arr (as.map f)).Plain :=
  .arr (List.forall_mem_map.2 fun a _ => h a)

@[simp] theorem plain_str (s : String) : (str s).Plain := .str s

@[simp] theorem plain_ofUuid (u : Uuid) : (ofUuid u).Plain := .str u.text

@[simp] theorem plain_ofInstant (t : Instant) : (ofInstant t).Plain := .str t.text

theorem plain_ofOption {f : α → Json} {o : Option α} (h : ∀ a ∈ o, (f a).Plain) : (ofOption f o).Plain := by
  cases o with
  | none => exact .null
  | some a => exact h a rfl

@[simp] theorem plain_ofOption_ofUuid (o : Option Uuid) : (ofOption ofUuid o).Plain :=
  plain_ofOption fun u _ => plain_ofUuid u

@[simp] theorem plain_ofOption_ofInstant (o : Option Instant) : (ofOption ofInstant o).Plain :=
  plain_ofOption fun t _ => plain_ofInstant t

@[simp] theorem plain_ofOption_str (o : Option String) : (ofOption str o).Plain :=
  plain_ofOption fun s _ => plain_str s

theorem plain_ofOption_int {o : Option Int} (h : ∀ n ∈ o.toList, -signedBound ≤ n ∧ n < signedBound) :
    (ofOption int o).Plain := by
  apply plain_ofOption
  intro n hn
  obtain ⟨hleast, hmost⟩ := h n (Option.mem_toList.2 hn)
  exact .int hleast (Int.lt_trans hmost (by decide))

end Json

theorem Interval.plain_toJson (i : Interval) : i.toJson.Plain := by
  unfold toJson
  rw [Json.plain_obj]
  cases i.rootCause <;> cases i.createdBy <;> simp

theorem PointerUpdate.plain_toJson (p : PointerUpdate) : p.toJson.Plain := by
  simp [toJson, Json.plain_obj]

theorem EndRepair.plain_toJson (r : EndRepair) : r.toJson.Plain := by
  simp [toJson, Json.plain_obj]

theorem Violation.plain_toJson (v : Violation) : v.toJson.Plain := by
  cases v <;> simp [toJson, Json.plain_obj, Json.plain_arr_map]

/--
The form of a value whose numbers have 64 bits can be written as it is.
-/
theorem Wire.plain_toJson {w : Wire} {x : w.Value} (h : w.Fits x) : (w.toJson x).Plain := by
  cases w with
  | interval => exact Interval.plain_toJson x
  | newInterval => simp [toJson, NewInterval.toJson, Json.plain_obj]
  | changeRequest => simp [toJson, ChangeRequest.toJson, Json.plain_obj]
  | pointerUpdate => exact PointerUpdate.plain_toJson x
  | actor => simp [toJson, Actor.toJson, Json.plain_obj]
  | statusChange =>
    simp [toJson, StatusChange.toJson, Json.plain_obj, Interval.plain_toJson, PointerUpdate.plain_toJson]
  | endRepair => exact EndRepair.plain_toJson x
  | deletionOutcome =>
    have hrepair : (Json.ofOption EndRepair.toJson x.repair).Plain := Json.plain_ofOption fun r _ => r.plain_toJson
    have hpointer : (Json.ofOption PointerUpdate.toJson x.pointer).Plain := Json.plain_ofOption fun p _ => p.plain_toJson
    simp [toJson, DeletionOutcome.toJson, Json.plain_obj, Interval.plain_toJson, hrepair, hpointer]
  | violation => exact Violation.plain_toJson x
  | auditReport =>
    have hcount : (Json.ofNat x.intervalCount).Plain := .int (by omega) (Int.ofNat_lt.2 h)
    simp [toJson, AuditReport.toJson, Json.plain_obj, hcount, Json.plain_arr_map, Violation.plain_toJson]
  | pageQuery =>
    obtain ⟨hlimit, hoffset⟩ := List.forall_mem_append.1 h
    simp [toJson, PageQuery.toJson, Json.plain_obj, Json.plain_ofOption_int hlimit, Json.plain_ofOption_int hoffset]
  | finding => exact Violation.plain_toJson x
  | findings => exact Json.plain_arr_map Violation.plain_toJson x

end Plain

namespace Wire

/--
Every value in range is read from its form as it was written.
-/
theorem ofJson_toJson {w : Wire} {x : w.Value} (h : w.InRange x) : w.ofJson (w.toJson x) = .ok x := by
  obtain ⟨hinstants, hnumbers⟩ := h
  cases w with
  | interval => exact Interval.ofJson_toJson hinstants
  | newInterval => exact NewInterval.ofJson_toJson hinstants
  | changeRequest => exact ChangeRequest.ofJson_toJson hinstants
  | pointerUpdate => exact PointerUpdate.ofJson_toJson x
  | actor => exact Actor.ofJson_toJson x
  | statusChange => exact StatusChange.ofJson_toJson hinstants
  | endRepair => exact EndRepair.ofJson_toJson hinstants
  | deletionOutcome => exact DeletionOutcome.ofJson_toJson hinstants
  | violation => exact Violation.ofJsonWithin_toJson (by decide) hinstants
  | auditReport => exact AuditReport.ofJson_toJson hnumbers hinstants
  | pageQuery => exact PageQuery.ofJson_toJson hnumbers
  | finding => exact Violation.ofJsonWithin_toJson (by decide) hinstants
  | findings => exact Violation.asList_toJson hinstants

end Wire

end StatusTimeline
