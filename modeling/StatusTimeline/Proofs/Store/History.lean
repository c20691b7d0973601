import StatusTimeline.Proofs.Timeline.Joined
import StatusTimeline.Store.Basic

/-!
This module contains histories, the intervals of one monitor in the order of their insertion: what each of the
store's operations makes of them, and what the store's searches find in them.
-/

namespace StatusTimeline

section Greatest

variable {α : Type} {le : α → α → Bool}

theorem greatest?_eq_getLast? {xs : List α} (h : xs.Pairwise fun x y => le x y = true) :
    greatest? le xs = xs.getLast? := by
  induction xs with
  | nil => rfl
  | cons x xs ih =>
    rw [List.pairwise_cons] at h
    rw [greatest?, ih h.2, List.getLast?_cons]
    cases hl : xs.getLast? with
    | none => rfl
    | some y => simp [h.1 y (List.mem_of_getLast? hl)]

theorem greatest?_eq_head? {xs : List α} (h : xs.Pairwise fun x y => le x y = false) :
    greatest? le xs = xs.head? := by
  induction xs with
  | nil => rfl
  | cons x xs ih =>
    rw [List.pairwise_cons] at h
    rw [greatest?, ih h.2]
    cases xs with
    | nil => rfl
    | cons y ys => simp [h.1 y (by simp)]

theorem greatest?_mem {xs : List α} {x : α} (h : greatest? le xs = some x) : x ∈ xs := by
  induction xs generalizing x with
  | nil => cases h
  | cons y ys ih =>
    rw [greatest?] at h
    split at h
    . cases h
      exact List.mem_cons_self
    . next z hz =>
      split at h
      . cases h
        exact List.mem_cons_of_mem _ (ih hz)
      . cases h
        exact List.mem_cons_self

theorem greatest?_map {f : α → α} (h : ∀ x y, le (f x) (f y) = le x y) (xs : List α) :
    greatest? le (xs.map f) = (greatest? le xs).map f := by
  induction xs with
  | nil => rfl
  | cons x xs ih =>
    rw [List.map_cons, greatest?, greatest?, ih]
    cases greatest? le xs with
    | none => rfl
    | some y =>
      simp only [Option.map_some, h]
      split <;> rfl

end Greatest

namespace Row

theorem mem_ofMonitor {monitor : Uuid} {rows : List Row} {r : Row} :
    r ∈ ofMonitor monitor rows ↔ r ∈ rows ∧ r.interval.monitorId = monitor := by
  simp [ofMonitor]

/--
A search for the greatest row goes by its keys, whatever else is made of the rows.
-/
theorem greatest?_interval {le : Row → Row → Bool} {f : Row → Row} {g : Interval → Interval}
    (hf : ∀ r, (f r).interval = g r.interval) (h : ∀ a b, le (f a) (f b) = le a b) (rows : List Row) :
    (greatest? le (rows.map f)).map (·.interval) = ((greatest? le rows).map (·.interval)).map g := by
  rw [greatest?_map h, Option.map_map, Option.map_map]
  congr 1
  funext r
  exact hf r

theorem ofMonitor_append (monitor : Uuid) (rs rs' : List Row) :
    ofMonitor monitor (rs ++ rs') = ofMonitor monitor rs ++ ofMonitor monitor rs' := by
  simp [ofMonitor]

theorem ofMonitor_filter (monitor : Uuid) (p : Row → Bool) (rows : List Row) :
    ofMonitor monitor (rows.filter p) = (ofMonitor monitor rows).filter p := by
  simp only [ofMonitor, List.filter_filter]
  congr 1
  funext r
  exact Bool.and_comm _ _

theorem ofMonitor_map (monitor : Uuid) {f : Row → Row} (rows : List Row)
    (h : ∀ r, (f r).interval.monitorId = r.interval.monitorId) :
    ofMonitor monitor (rows.map f) = (ofMonitor monitor rows).map f := by
  simp only [ofMonitor, List.filter_map]
  congr 2
  funext r
  simp [h]

end Row

namespace StoreCall

def draws : StoreCall → Bool
  | insert _ => true
  | append _ _ => true
  | _ => false

def isRead : StoreCall → Bool
  | findById _ => true
  | findLatest _ => true
  | findNeighbors _ _ => true
  | count _ => true
  | list _ => true
  | _ => false

theorem answer_of_isRead {s : Store} {stamp : Stamp} {c : StoreCall} (h : c.isRead = true) :
    (s.answer stamp c).2 = s := by
  cases c <;> first | rfl | cases h

theorem draws_of_isRead {c : StoreCall} (h : c.isRead = true) : c.draws = false := by
  cases c <;> first | rfl | cases h

end StoreCall

namespace Store

def history (s : Store) (monitor : Uuid) : List Interval :=
  (Row.ofMonitor monitor s.rows).map (·.interval)

/--
Identifiers tell the rows apart, and creation times increase along them up to the last one that was given.
-/
structure WellFormed (s : Store) : Prop where
  ids : s.rows.Pairwise fun a b => a.interval.id ≠ b.interval.id
  creation : s.rows.Pairwise fun a b => a.interval.createdAt < b.interval.createdAt
  last : ∀ r ∈ s.rows, ∃ t, s.lastCreatedAt = some t ∧ r.interval.createdAt ≤ t

def StartsAtCreation (s : Store) : Prop := ∀ r ∈ s.rows, r.interval.startsAt = r.interval.createdAt

variable {s s₀ : Store} {monitor id : Uuid}

theorem mem_history {i : Interval} :
    i ∈ s.history monitor ↔ ∃ r ∈ s.rows, r.interval = i ∧ i.monitorId = monitor := by
  simp only [history, List.mem_map, Row.mem_ofMonitor]
  constructor
  . intro ⟨r, ⟨hr, hm⟩, hi⟩
    exact ⟨r, hr, hi, hi ▸ hm⟩
  . intro ⟨r, hr, hi, hm⟩
    exact ⟨r, ⟨hr, hi ▸ hm⟩, hi⟩

theorem monitorId_of_mem {i : Interval} (h : i ∈ s.history monitor) : i.monitorId = monitor := by
  obtain ⟨_, _, _, hm⟩ := mem_history.1 h
  exact hm

theorem length_history : (Row.ofMonitor monitor s.rows).length = (s.history monitor).length := by
  simp [history]

section Operations

theorem history_insert (stamp : Stamp) (new : NewInterval) :
    (s.insert stamp new).2.history monitor = s.history monitor ++
      if new.monitorId = monitor then [(s.insert stamp new).1] else [] := by
  simp only [history, insert, Row.ofMonitor_append, List.map_append]
  congr 1
  unfold Row.ofMonitor
  split <;> simp_all [NewInterval.materialise]

theorem ofMonitor_setEnd (id : Uuid) (e : Option Instant) :
    Row.ofMonitor monitor (s.setEnd id e).rows =
      (Row.ofMonitor monitor s.rows).map fun r => if r.interval.id = id then r.withEnd e else r := by
  apply Row.ofMonitor_map
  intro r
  split <;> rfl

theorem history_setEnd (id : Uuid) (e : Option Instant) :
    (s.setEnd id e).history monitor = (s.history monitor).map (Interval.endAt id e) := by
  unfold history
  rw [ofMonitor_setEnd, List.map_map, List.map_map]
  apply List.map_congr_left
  intro r _
  simp only [Function.comp, Interval.endAt]
  split <;> rfl

theorem ofMonitor_erase (id : Uuid) :
    Row.ofMonitor monitor (s.erase id).rows =
      (Row.ofMonitor monitor s.rows).filter fun r => r.interval.id ≠ id :=
  Row.ofMonitor_filter ..

theorem history_erase (id : Uuid) :
    (s.erase id).history monitor = (s.history monitor).filter fun i => i.id ≠ id := by
  unfold history
  rw [ofMonitor_erase, List.filter_map]
  rfl

theorem history_purge (cutoff : Instant) :
    (s.purge cutoff).2.history monitor =
      (s.history monitor).filter fun i => !Interval.endedBefore cutoff i := by
  unfold history purge
  rw [Row.ofMonitor_filter, List.filter_map]
  rfl

/--
Where a row comes from: its identifier is new, or it is an old row, perhaps with another end.
-/
def Stems (s : Store) (new : Uuid → Prop) (r : Row) : Prop :=
  new r.interval.id ∨
    ∃ r₀ ∈ s.rows, r₀.interval.id = r.interval.id ∧ r₀.interval.monitorId = r.interval.monitorId

variable {new : Uuid → Prop} {r : Row}

theorem stems_of_mem (hr : r ∈ s.rows) : s.Stems new r := .inr ⟨r, hr, rfl, rfl⟩

theorem Stems.trans (h : ∀ r ∈ s.rows, s₀.Stems new r) (hr : s.Stems new r) : s₀.Stems new r := by
  cases hr with
  | inl hr => exact .inl hr
  | inr hr =>
    obtain ⟨r', hr', hid, hm⟩ := hr
    have := h r' hr'
    unfold Stems at *
    rw [← hid, ← hm]
    exact this

theorem stems_insert {stamp : Stamp} {i : NewInterval} (hr : r ∈ (s.insert stamp i).2.rows) :
    s.Stems (· = stamp.id) r := by
  simp only [insert, List.mem_append, List.mem_singleton] at hr
  cases hr with
  | inl hr => exact stems_of_mem hr
  | inr hr => exact .inl (hr ▸ rfl)

theorem stems_setEnd {e : Option Instant} (hr : r ∈ (s.setEnd id e).rows) : s.Stems new r := by
  simp only [setEnd, List.mem_map] at hr
  obtain ⟨r₀, hr₀, rfl⟩ := hr
  exact .inr ⟨r₀, hr₀, by split <;> rfl, by split <;> rfl⟩

theorem stems_filter {p : Row → Bool} (hr : r ∈ s.rows.filter p) : s.Stems new r :=
  stems_of_mem (List.mem_filter.1 hr).1

theorem stems_append {stamp : Stamp} {i : NewInterval} {close : Option Uuid}
    (hr : r ∈ (s.append stamp i close).2.rows) : s.Stems (· = stamp.id) r := by
  cases close with
  | none => exact stems_insert hr
  | some prior =>
    simp only [append] at hr
    split at hr
    . exact .trans (fun _ => stems_insert) (stems_setEnd hr)
    . exact stems_of_mem hr

theorem stems_applyDeletion {plan : DeletionPlan} (hr : r ∈ (s.applyDeletion plan).2.rows) :
    s.Stems new r := by
  simp only [applyDeletion] at hr
  split at hr
  . exact stems_of_mem hr
  . split at hr
    . exact stems_filter hr
    . split at hr
      . exact stems_setEnd (List.mem_filter.1 hr).1
      . exact stems_of_mem hr

theorem stems_answer {stamp : Stamp} {c : StoreCall} (hr : r ∈ (s.answer stamp c).2.rows) :
    s.Stems (fun id => c.draws = true ∧ id = stamp.id) r := by
  cases c with
  | insert i => exact (stems_insert hr).imp_left fun hid => ⟨rfl, hid⟩
  | append i close => exact (stems_append hr).imp_left fun hid => ⟨rfl, hid⟩
  | updateEndsAt id e =>
    simp only [answer] at hr
    split at hr
    . exact stems_setEnd hr
    . exact stems_of_mem hr
  | delete id =>
    simp only [answer] at hr
    split at hr
    . exact stems_filter hr
    . exact stems_of_mem hr
  | purge cutoff => exact stems_filter hr
  | applyDeletion plan => exact stems_applyDeletion hr
  | _ => exact stems_of_mem hr

end Operations

def Belongs (s : Store) (id monitor : Uuid) : Prop :=
  ∀ r ∈ s.rows, r.interval.id = id → r.interval.monitorId = monitor

section Others

variable {M : Uuid}

theorem ofMonitor_insert_of_ne {stamp : Stamp} {new : NewInterval} (hM : M ≠ new.monitorId) :
    Row.ofMonitor M (s.insert stamp new).2.rows = Row.ofMonitor M s.rows := by
  simp only [insert, Row.ofMonitor_append]
  simp [Row.ofMonitor, NewInterval.materialise, Ne.symm hM]

theorem ofMonitor_setEnd_of_ne (h : s.Belongs id monitor) (hM : M ≠ monitor) (e : Option Instant) :
    Row.ofMonitor M (s.setEnd id e).rows = Row.ofMonitor M s.rows := by
  rw [ofMonitor_setEnd]
  apply (List.map_congr_left _).trans (List.map_id' _)
  intro r hr
  obtain ⟨hr, hm⟩ := Row.mem_ofMonitor.1 hr
  rw [if_neg]
  intro hid
  exact hM (hm.symm.trans (h r hr hid))

theorem ofMonitor_erase_of_ne (h : s.Belongs id monitor) (hM : M ≠ monitor) :
    Row.ofMonitor M (s.erase id).rows = Row.ofMonitor M s.rows := by
  rw [ofMonitor_erase, List.filter_eq_self]
  intro r hr
  obtain ⟨hr, hm⟩ := Row.mem_ofMonitor.1 hr
  rw [decide_eq_true_eq]
  intro hid
  exact hM (hm.symm.trans (h r hr hid))

theorem belongs_setEnd {id' : Uuid} (h : s.Belongs id monitor) (e : Option Instant) :
    (s.setEnd id' e).Belongs id monitor := by
  intro r hr hid
  have hstems : s.Stems (fun _ => False) r := stems_setEnd hr
  rcases hstems with habs | ⟨r₀, hr₀, hid₀, hm₀⟩
  . exact habs.elim
  . rw [← hm₀]
    exact h r₀ hr₀ (hid₀.trans hid)

theorem belongs_insert {stamp : Stamp} {new : NewInterval} (h : s.Belongs id monitor)
    (hid : id ≠ stamp.id) : (s.insert stamp new).2.Belongs id monitor := by
  intro r hr heq
  rcases stems_insert hr with hnew | ⟨r₀, hr₀, hid₀, hm₀⟩
  . exact absurd (heq.symm.trans hnew) hid
  . rw [← hm₀]
    exact h r₀ hr₀ (hid₀.trans heq)

/--
Closing an interval of the same monitor while another one is inserted leaves the other monitors alone.
-/
theorem ofMonitor_append_of_ne {stamp : Stamp} {new : NewInterval} {close : Option Uuid}
    (hclose : ∀ prior, close = some prior → s.Belongs prior new.monitorId ∧ prior ≠ stamp.id)
    (hM : M ≠ new.monitorId) :
    Row.ofMonitor M (s.append stamp new close).2.rows = Row.ofMonitor M s.rows := by
  cases close with
  | none => exact ofMonitor_insert_of_ne hM
  | some prior =>
    obtain ⟨hb, hne⟩ := hclose prior rfl
    simp only [append]
    split
    . exact (ofMonitor_setEnd_of_ne (belongs_insert hb hne) hM _).trans (ofMonitor_insert_of_ne hM)
    . rfl

theorem ofMonitor_applyDeletion_of_ne {plan : DeletionPlan} (htarget : s.Belongs plan.target monitor)
    (hrepair : ∀ repair, plan.repair = some repair → s.Belongs repair.intervalId monitor)
    (hM : M ≠ monitor) :
    Row.ofMonitor M (s.applyDeletion plan).2.rows = Row.ofMonitor M s.rows := by
  unfold applyDeletion
  split
  . rfl
  . split
    . exact ofMonitor_erase_of_ne htarget hM
    . next repair heq =>
      split
      . exact (ofMonitor_erase_of_ne (belongs_setEnd htarget _) hM).trans
          (ofMonitor_setEnd_of_ne (hrepair repair heq) hM _)
      . rfl

end Others

section Search

theorem find?_mem {r : Row} (h : s.find? id = some r) : r ∈ s.rows ∧ r.interval.id = id := by
  constructor
  . exact List.mem_of_find?_eq_some h
  . simpa using List.find?_some h

theorem contains_iff : s.contains id = true ↔ ∃ r ∈ s.rows, r.interval.id = id := by
  simp [contains, find?, Row.find?]

theorem contains_of_mem {i : Interval} (h : i ∈ s.history monitor) : s.contains i.id = true := by
  obtain ⟨r, hr, hi, _⟩ := mem_history.1 h
  exact contains_iff.2 ⟨r, hr, hi ▸ rfl⟩

theorem contains_eq_false : s.contains id = false ↔ ∀ r ∈ s.rows, r.interval.id ≠ id := by
  rw [← Bool.not_eq_true, contains_iff]
  simp

theorem contains_setEnd (s : Store) (id id' : Uuid) (e : Option Instant) :
    (s.setEnd id e).contains id' = s.contains id' := by
  simp only [contains, find?, Row.find?, setEnd, List.find?_map, Option.isSome_map]
  congr 2
  funext r
  simp only [Function.comp]
  split <;> rfl

theorem contains_insert {stamp : Stamp} {new : NewInterval} (h : s.contains id = true) :
    (s.insert stamp new).2.contains id = true := by
  rw [contains_iff] at h ⊢
  obtain ⟨r, hr, hid⟩ := h
  exact ⟨r, List.mem_append_left _ hr, hid⟩

theorem latest?_mem {i : Interval} (h : Row.latest? monitor s.rows = some i) : i ∈ s.history monitor := by
  unfold Row.latest? at h
  rw [Option.map_eq_some_iff] at h
  obtain ⟨r, hr, rfl⟩ := h
  exact List.mem_map.2 ⟨r, greatest?_mem hr, rfl⟩

theorem latest?_eq_getLast? (h : s.rows.Pairwise fun a b => Row.recencyLe a b = true) (monitor : Uuid) :
    Row.latest? monitor s.rows = (s.history monitor).getLast? := by
  unfold Row.latest? history
  rw [greatest?_eq_getLast?, List.getLast?_map]
  exact List.Pairwise.sublist List.filter_sublist h

theorem before_mem {at_ : Instant} {i : Interval} (h : (Row.neighbors monitor at_ s.rows).before = some i) :
    i ∈ s.history monitor := by
  unfold Row.neighbors at h
  rw [Option.map_eq_some_iff] at h
  obtain ⟨r, hr, rfl⟩ := h
  exact List.mem_map.2 ⟨r, (List.mem_filter.1 (greatest?_mem hr)).1, rfl⟩

namespace WellFormed

theorem eq_of_id (h : s.WellFormed) {a b : Row} (ha : a ∈ s.rows) (hb : b ∈ s.rows)
    (he : a.interval.id = b.interval.id) : a = b := by
  obtain ⟨n, hn, rfl⟩ := List.mem_iff_getElem.1 ha
  obtain ⟨m, hm, rfl⟩ := List.mem_iff_getElem.1 hb
  have hp := List.pairwise_iff_getElem.1 h.ids
  rcases Nat.lt_trichotomy n m with hlt | heq | hlt
  . exact absurd he (hp n m hn hm hlt)
  . simp [heq]
  . exact absurd he.symm (hp m n hm hn hlt)

theorem find?_eq_some_iff (h : s.WellFormed) {r : Row} :
    s.find? id = some r ↔ r ∈ s.rows ∧ r.interval.id = id := by
  constructor
  . exact find?_mem
  . intro ⟨hr, hid⟩
    cases hf : s.find? id with
    | none =>
      have := List.find?_eq_none.1 hf r hr
      simp [hid] at this
    | some r' =>
      have hr' := find?_mem hf
      rw [h.eq_of_id hr'.1 hr (hr'.2.trans hid.symm)]

theorem belongs (h : s.WellFormed) {i : Interval} (hi : i ∈ s.history monitor) : s.Belongs i.id monitor := by
  intro r hr hid
  obtain ⟨r₀, hr₀, heq, hm⟩ := mem_history.1 hi
  rw [h.eq_of_id hr hr₀ (by rw [heq, hid]), heq]
  exact hm

theorem recency (h : s.WellFormed) (monitor : Uuid) :
    (Row.ofMonitor monitor s.rows).Pairwise fun a b => a.interval.createdAt < b.interval.createdAt :=
  List.Pairwise.sublist List.filter_sublist h.creation

theorem ids_history (h : s.WellFormed) (monitor : Uuid) :
    (s.history monitor).Pairwise fun i j => i.id ≠ j.id := by
  unfold history
  rw [List.pairwise_map]
  exact List.Pairwise.sublist List.filter_sublist h.ids

theorem latest?_eq (h : s.WellFormed) (monitor : Uuid) :
    Row.latest? monitor s.rows = (s.history monitor).getLast? := by
  apply latest?_eq_getLast?
  apply List.Pairwise.imp _ h.creation
  intro a b hab
  simp [Row.recencyLe, hab]

end WellFormed

namespace StartsAtCreation

theorem startLe (hd : s.StartsAtCreation) (h : s.WellFormed) (monitor : Uuid) :
    (Row.ofMonitor monitor s.rows).Pairwise fun a b => Row.startLe a b = true := by
  apply List.Pairwise.imp_of_mem _ (h.recency monitor)
  intro a b ha hb hab
  have ha := hd a (Row.mem_ofMonitor.1 ha).1
  have hb := hd b (Row.mem_ofMonitor.1 hb).1
  simp [Row.startLe, ha, hb, hab]

theorem ascending (hd : s.StartsAtCreation) (h : s.WellFormed) (monitor : Uuid) :
    Interval.Ascending (s.history monitor) := by
  unfold Interval.Ascending history
  rw [List.pairwise_map]
  apply List.Pairwise.imp_of_mem _ (h.recency monitor)
  intro a b ha hb hab
  rw [hd a (Row.mem_ofMonitor.1 ha).1, hd b (Row.mem_ofMonitor.1 hb).1]
  exact hab

theorem timeline_eq (hd : s.StartsAtCreation) (h : s.WellFormed) :
    Row.timeline monitor s.rows = s.history monitor := by
  unfold Row.timeline
  rw [List.mergeSort_of_pairwise (hd.startLe h monitor)]
  rfl

theorem filter_before (hd : s.StartsAtCreation) (h : s.WellFormed) {as cs : List Interval} {t : Interval}
    (hs : s.history monitor = as ++ t :: cs) :
    (s.history monitor).filter (·.startsAt < t.startsAt) = as := by
  have ha := hd.ascending h monitor
  unfold Interval.Ascending at ha
  rw [hs, List.pairwise_append, List.pairwise_cons] at ha
  obtain ⟨_, ⟨htc, _⟩, hac⟩ := ha
  rw [hs, List.filter_append, List.filter_eq_self.2, List.filter_eq_nil_iff.2]
  . simp
  . intro c hc
    rw [List.mem_cons] at hc
    simp only [decide_eq_true_eq, Instant.lt_def] at *
    cases hc with
    | inl hc => rw [hc]; omega
    | inr hc => have := htc c hc; omega
  . intro a ha
    simpa using hac a ha t (by simp)

theorem filter_after (hd : s.StartsAtCreation) (h : s.WellFormed) {as cs : List Interval} {t : Interval}
    (hs : s.history monitor = as ++ t :: cs) :
    (s.history monitor).filter (t.startsAt < ·.startsAt) = cs := by
  have ha := hd.ascending h monitor
  unfold Interval.Ascending at ha
  rw [hs, List.pairwise_append, List.pairwise_cons] at ha
  obtain ⟨_, ⟨htc, _⟩, hac⟩ := ha
  rw [hs, List.filter_append, List.filter_eq_nil_iff.2, List.filter_cons_of_neg, List.filter_eq_self.2]
  . rfl
  . intro c hc
    simpa using htc c hc
  . simp [Instant.lt_def]
  . intro a ha
    have := hac a ha t (by simp)
    simp only [decide_eq_true_eq, Instant.lt_def] at *
    omega

/--
Where intervals start at their creation, the neighbours of an interval are those next to it in the history.
-/
theorem neighbors_eq (hd : s.StartsAtCreation) (h : s.WellFormed) {as cs : List Interval} {t : Interval}
    (hs : s.history monitor = as ++ t :: cs) :
    Row.neighbors monitor t.startsAt s.rows = { before := as.getLast?, after := cs.head? } := by
  have hle := hd.startLe h monitor
  have hlt : (Row.ofMonitor monitor s.rows).Pairwise fun a b => Row.startLe b a = false := by
    apply List.Pairwise.imp_of_mem _ (h.recency monitor)
    intro a b ha hb hab
    have ha := hd a (Row.mem_ofMonitor.1 ha).1
    have hb := hd b (Row.mem_ofMonitor.1 hb).1
    simp only [Row.startLe, Row.recencyLe, ha, hb, Instant.slot_inj, Instant.lt_def] at *
    simp
    omega
  -- both searches follow the order of insertion, from either end
  unfold Row.neighbors
  rw [greatest?_eq_getLast? (List.Pairwise.sublist List.filter_sublist hle),
    greatest?_eq_head? (List.Pairwise.sublist List.filter_sublist hlt), ← List.getLast?_map,
    ← List.head?_map]
  congr 2
  . rw [← hd.filter_before h hs, history, List.filter_map]
    rfl
  . rw [← hd.filter_after h hs, history, List.filter_map]
    rfl

end StartsAtCreation

end Search

end Store

end StatusTimeline
