import StatusTimeline.Proofs.Engine.Sink

/-!
This module contains runs of records and deletions in which the sink of the status pointers refuses some of its calls,
and callers repeat what has failed. A record that is repeated ends with a pointer. A deletion that is repeated does not:
it has deleted its interval before the sink was called, and finds nothing to delete any more.
-/

namespace StatusTimeline

/--
Whether a caller that gets the error gives up.
-/
def Error.isFinal : Error → Bool
  | validation _ => true
  | notFound _ => true
  | _ => false

def Request.isDeletion : Request → Bool
  | delete _ => true
  | _ => false

/--
A turn, and the error with which the sink refuses its pointer, if it does.
-/
structure Delivery extends Turn where
  sink : Option Error := none
deriving DecidableEq, Repr

namespace Interval

theorem length_closing (close : Option Uuid) (e : Instant) (is : List Interval) :
    (closing close e is).length = is.length := by
  cases close <;> simp [closing]

end Interval

namespace Store.WellFormed

variable {s s' : Store} {stamp : Stamp} {new : NewInterval} {created : Interval}

theorem ids_nodup (h : s.WellFormed) : s.ids.Nodup := by
  rw [Store.ids, List.Nodup, List.pairwise_map]
  exact h.ids

/--
What is appended is the most recently created interval of its monitor.
-/
theorem latest?_append (h : s.WellFormed) (hf : s.contains stamp.id = false)
    (happ : s.append stamp new ((Row.latest? new.monitorId s.rows).map (·.id)) = (.ok created, s')) :
    Row.latest? new.monitorId s'.rows = some created ∧
      (s'.history new.monitorId).length = (s.history new.monitorId).length + 1 := by
  have hw := h.append new ((Row.latest? new.monitorId s.rows).map (·.id)) hf
  rw [happ] at hw
  have hhistory := history_append happ new.monitorId
  rw [if_pos rfl] at hhistory
  constructor
  . rw [hw.latest?_eq, hhistory, Interval.closing_concat, List.getLast?_concat]
    intro hclose
    obtain ⟨prior, hprior, hid⟩ := Option.map_eq_some_iff.1 hclose
    obtain ⟨r, hr, rfl, _⟩ := mem_history.1 (latest?_mem hprior)
    rw [append_created happ] at hid
    exact contains_eq_false.1 hf r hr hid
  . rw [hhistory, Interval.length_closing, List.length_append, List.length_singleton]

end Store.WellFormed

namespace Memory

/--
Serve a turn, except that the sink may refuse its pointer.
-/
def deliver (e : Engine) (m : Memory) (d : Delivery) : Except Error d.request.Answer × Memory :=
  (d.request.operation e).execute (sinking d.stamp d.sink) m

def afterAll (e : Engine) (m : Memory) : List Delivery → Memory
  | [] => m
  | d :: ds => (m.deliver e d).2.afterAll e ds

/--
What a record or a deletion comes to: an error and nothing changed, or a change of the intervals of one monitor, whose
pointer is set to the status of its latest one.
-/
inductive Comes (m : Memory) (r : Request) : Except Error r.Answer × Memory → Prop where
  | refused (err : Error) (m' : Memory) (hstore : m'.store = m.store) (hboard : m'.board = m.board) :
    Comes m r (.error err, m')
  | written (monitor : Uuid) (latest : Interval) (a : r.Answer) (m' : Memory)
    (hlength : (m'.store.history monitor).length ≠ (m.store.history monitor).length)
    (hlatest : Row.latest? monitor m'.store.rows = some latest)
    (hboard : m'.board = m.board.set { monitorId := monitor, statusId := latest.statusId })
    (hother : ∀ M, M ≠ monitor → m'.store.history M = m.store.history M) : Comes m r (.ok a, m')

variable {e : Engine} {m : Memory} {stamp : Stamp} {r : Request} {monitor : Uuid} {d : Delivery} {ds : List Delivery}

namespace Sound

theorem comes_record (h : m.Sound) (he : e.compound = .whole) {r : ChangeRequest} {status : Uuid}
    (hmonitor : r.monitorId = some monitor) (hstatus : r.statusId = some status)
    (hf : m.store.contains stamp.id = false) :
    ∃ change m', Memory.serve e m stamp (.record r) = (.ok change, m') ∧
      (m'.store.history monitor).length ≠ (m.store.history monitor).length ∧
      ∃ latest, Row.latest? monitor m'.store.rows = some latest ∧
        m'.board = m.board.set { monitorId := monitor, statusId := latest.statusId } ∧
        ∀ M, M ≠ monitor → m'.store.history M = m.store.history M := by
  obtain ⟨created, s', happ, _, _, hother⟩ :=
    h.wellFormed.append_latest (Engine.opening monitor status r (m.rootCause e r)) hf
  obtain ⟨hlatest, hlength⟩ := h.wellFormed.latest?_append hf happ
  refine ⟨_, _, serve_record_ok he h.idle hmonitor hstatus happ, ?_, created, hlatest, rfl, hother⟩
  show (s'.history monitor).length ≠ _
  have hlength : (s'.history monitor).length = (m.store.history monitor).length + 1 := hlength
  omega

theorem comes (h : m.Sound) (he : e.compound = .whole) (hr : r.Writes) (hf : m.store.contains stamp.id = false) :
    Comes m r (Memory.serve e m stamp r) := by
  cases r with
  | record r =>
    cases hmonitor : r.monitorId with
    | none =>
      rw [serve_record he h.idle]
      simp only [hmonitor]
      exact .refused _ _ rfl rfl
    | some monitor =>
      cases hstatus : r.statusId with
      | none =>
        rw [serve_record he h.idle]
        simp only [hmonitor, hstatus]
        exact .refused _ _ rfl rfl
      | some status =>
        obtain ⟨change, m', heq, hlength, latest, hlatest, hboard, hother⟩ := h.comes_record he hmonitor hstatus hf
        rw [heq]
        exact .written monitor latest change m' hlength hlatest hboard hother
  | delete id =>
    cases hfind : m.store.find? id with
    | none =>
      rw [serve_delete_none he h.idle hfind]
      exact .refused _ _ rfl rfl
    | some row =>
      by_cases hfew : (Row.ofMonitor row.interval.monitorId m.store.rows).length ≤ 1
      . rw [serve_delete_only he h.idle hfind hfew]
        exact .refused _ _ rfl rfl
      . have hmem : row.interval ∈ m.store.history row.interval.monitorId :=
          Store.mem_history.2 ⟨row, (Store.find?_mem hfind).1, rfl, rfl⟩
        obtain ⟨s', happ, hlength, _, _, hother⟩ := h.wellFormed.applyDeletion_restitch hmem rfl
        obtain ⟨latest, hlatest⟩ := Store.latest?_applyDeletion h.wellFormed.ids_nodup (Nat.lt_of_not_le hfew) happ
        have hpointer : latestPointer s' row.interval.monitorId =
            some { monitorId := row.interval.monitorId, statusId := latest.statusId } := by
          rw [latestPointer, hlatest]
          rfl
        rw [serve_delete_ok he h.idle hfind hfew happ, hpointer]
        exact .written row.interval.monitorId latest _ _ (by dsimp only [putPointer]; omega) hlatest rfl hother
  | _ => exact hr.elim

end Sound

/--
What comes of a record or a deletion for one monitor: its intervals and its pointer are as they were, or its intervals
are changed, and its pointer follows them unless the sink has refused it.
-/
inductive Brings (m : Memory) (monitor : Uuid) (d : Delivery) (result : Except Error d.request.Answer × Memory) : Prop where
  | nothing (hhistory : result.2.store.history monitor = m.store.history monitor)
    (hpointer : result.2.board.current? monitor = m.board.current? monitor)
  | pointed (latest : Interval) (hsink : d.sink = none)
    (hlength : (result.2.store.history monitor).length ≠ (m.store.history monitor).length)
    (hlatest : Row.latest? monitor result.2.store.rows = some latest)
    (hpointer : result.2.board.current? monitor = some latest.statusId)
  | unpointed (err : Error) (hsink : d.sink = some err) (herr : result.1 = .error err)
    (hlength : (result.2.store.history monitor).length ≠ (m.store.history monitor).length)
    (hpointer : result.2.board.current? monitor = m.board.current? monitor)

theorem unpointed_snd {α : Type} (err : Error) (board : Board) (result : Except Error α × Memory) :
    (unpointed err board result).2.store = result.2.store ∧ (unpointed err board result).2.locks = result.2.locks := by
  obtain ⟨outcome, m⟩ := result
  cases outcome <;> exact ⟨rfl, rfl⟩

theorem deliver_eq (he : e.compound = .whole) (hids : m.store.ids.Nodup) (hd : d.request.Writes) :
    m.deliver e d =
      match d.sink with
      | none => serve e m d.stamp d.request
      | some err => unpointed err m.board (serve e m d.stamp d.request) := by
  unfold deliver
  cases d.sink with
  | none =>
    rw [sinking_none]
    rfl
  | some err => exact falls_operation he hids hd

/--
The sink decides about nothing but the pointer.
-/
theorem deliver_snd (he : e.compound = .whole) (hids : m.store.ids.Nodup) (hd : d.request.Writes) :
    (m.deliver e d).2.store = (serve e m d.stamp d.request).2.store ∧
      (m.deliver e d).2.locks = (serve e m d.stamp d.request).2.locks := by
  rw [deliver_eq he hids hd]
  cases d.sink with
  | none => exact ⟨rfl, rfl⟩
  | some err => exact unpointed_snd ..

theorem Sound.brings (h : m.Sound) (he : e.compound = .whole) (hd : d.request.Writes)
    (hf : m.store.contains d.stamp.id = false) (monitor : Uuid) : Brings m monitor d (m.deliver e d) := by
  have hcomes := h.comes he hd hf
  have hdeliver := deliver_eq (m := m) he h.wellFormed.ids_nodup hd
  generalize Memory.serve e m d.stamp d.request = served at hcomes hdeliver
  rw [hdeliver]
  cases hcomes with
  | refused err m' hstore hboard =>
    have hhistory : m'.store.history monitor = m.store.history monitor := by rw [hstore]
    have hpointer : m'.board.current? monitor = m.board.current? monitor := by rw [hboard]
    cases d.sink <;> exact .nothing hhistory hpointer
  | written M latest a m' hlength hlatest hboard hother =>
    by_cases hM : monitor = M
    . subst hM
      cases hsink : d.sink with
      | none => exact .pointed latest hsink hlength hlatest (by simp only [hboard, Board.current?_set, if_true])
      | some err => exact .unpointed err hsink rfl hlength rfl
    . cases d.sink with
      | none => exact .nothing (hother monitor hM) (by simp only [hboard, Board.current?_set, if_neg hM])
      | some err => exact .nothing (hother monitor hM) rfl

section Runs

/--
Whether a caller that gets the answer is done.
-/
def concluded {α : Type} : Except Error α → Bool
  | .ok _ => true
  | .error err => err.isFinal

/--
Whether a request is made in a run and gets an answer with which its caller is done.
-/
def concludes (e : Engine) (m : Memory) (r : Request) : List Delivery → Bool
  | [] => false
  | d :: ds => decide (d.request = r) && concluded (m.deliver e d).1 || (m.deliver e d).2.concludes e r ds

/--
Whether each request of a run that fails is repeated later on until its caller is done.
-/
def rests (e : Engine) (m : Memory) : List Delivery → Bool
  | [] => true
  | d :: ds => (concluded (m.deliver e d).1 || (m.deliver e d).2.concludes e d.request ds) && (m.deliver e d).2.rests e ds

/--
The last one of a run to change the intervals of a monitor, with the memory that it was served from.
-/
def lastChange? (e : Engine) (m : Memory) (monitor : Uuid) : List Delivery → Option (Memory × Delivery)
  | [] => none
  | d :: ds =>
    match (m.deliver e d).2.lastChange? e monitor ds with
    | some change => some change
    | none => if (m.deliver e d).2.store.history monitor = m.store.history monitor then none else some (m, d)

/--
The status of a monitor as its most recently created interval has it.
-/
def latestStatus? (m : Memory) (monitor : Uuid) : Option Uuid := (Row.latest? monitor m.store.rows).map (·.statusId)

/--
Whether the pointer of a monitor is left behind by a run: the last one to change its intervals was refused by the sink,
its caller has no way to make up for it, since it was a deletion or the error told the caller to give up, and the pointer
had not had the right status before.
-/
def astray (e : Engine) (m : Memory) (monitor : Uuid) (ds : List Delivery) : Bool :=
  match m.lastChange? e monitor ds with
  | some (before, d) =>
    match d.sink with
    | some err => (d.request.isDeletion || err.isFinal) &&
        decide (before.board.current? monitor ≠ (before.deliver e d).2.latestStatus? monitor)
    | none => false
  | none => false

/--
A memory is ready for a run of records and deletions whose identifiers are new.
-/
structure Awaits (m : Memory) (ds : List Delivery) : Prop where
  sound : m.Sound
  writes : ∀ d ∈ ds, d.request.Writes
  ids : (ds.map (·.stamp.id)).Nodup
  fresh : ∀ d ∈ ds, m.store.contains d.stamp.id = false

namespace Awaits

theorem deliver (h : m.Awaits (d :: ds)) (he : e.compound = .whole) : (m.deliver e d).2.Awaits ds := by
  have hd := h.writes d List.mem_cons_self
  obtain ⟨hstore, hlocks⟩ := deliver_snd he h.sound.wellFormed.ids_nodup hd
  obtain ⟨_, hsound⟩ := h.sound.serve he d.request (h.fresh d List.mem_cons_self)
  have hids := List.nodup_cons.1 h.ids
  refine ⟨⟨?_, ?_⟩, fun d' hd' => h.writes d' (List.mem_cons_of_mem d hd'), hids.2, ?_⟩
  . rw [hlocks]
    exact hsound.idle
  . rw [hstore]
    exact hsound.wellFormed
  . intro d' hd'
    rw [hstore, ← Bool.not_eq_true]
    intro hback
    rcases contains_serve hback with hid | hback
    . exact hids.1 (List.mem_map.2 ⟨d', hd', hid⟩)
    . rw [h.fresh d' (List.mem_cons_of_mem d hd')] at hback
      cases hback

theorem brings (h : m.Awaits (d :: ds)) (he : e.compound = .whole) (monitor : Uuid) :
    Brings m monitor d (m.deliver e d) :=
  h.sound.brings he (h.writes d List.mem_cons_self) (h.fresh d List.mem_cons_self) monitor

theorem afterAll (h : m.Awaits ds) (he : e.compound = .whole) : (m.afterAll e ds).Sound := by
  induction ds generalizing m with
  | nil => exact h.sound
  | cons d ds ih => exact ih (h.deliver he)

/--
A record changes the intervals of the monitor that it names, and of no other one.
-/
theorem changes_iff (h : m.Awaits (d :: ds)) (he : e.compound = .whole) {r : ChangeRequest} (hr : d.request = .record r) :
    (m.deliver e d).2.store.history monitor ≠ m.store.history monitor ↔
      r.monitorId = some monitor ∧ r.statusId.isSome = true := by
  have hd := h.writes d List.mem_cons_self
  have hf := h.fresh d List.mem_cons_self
  rw [(deliver_snd he h.sound.wellFormed.ids_nodup hd).1, hr]
  constructor
  . intro hchanged
    have hmonitor : r.monitorId = some monitor := by
      apply Classical.byContradiction
      intro hM
      exact hchanged (h.sound.serve_elsewhere he (r := .record r) trivial hf hM).1
    refine ⟨hmonitor, ?_⟩
    cases hstatus : r.statusId with
    | none =>
      refine absurd ?_ hchanged
      rw [serve_record he h.sound.idle]
      simp only [hmonitor, hstatus]
    | some status => rfl
  . rintro ⟨hmonitor, hstatus⟩
    obtain ⟨status, hstatus⟩ := Option.isSome_iff_exists.1 hstatus
    obtain ⟨change, m', heq, hlength, _⟩ := h.sound.comes_record he hmonitor hstatus hf
    rw [heq]
    exact fun hsame => hlength (congrArg List.length hsame)

/--
After the last one to change the intervals of a monitor these and the pointer stay as they are.
-/
theorem lastChange (h : m.Awaits ds) (he : e.compound = .whole) (monitor : Uuid) :
    match m.lastChange? e monitor ds with
    | none => (m.afterAll e ds).store.history monitor = m.store.history monitor ∧
        (m.afterAll e ds).board.current? monitor = m.board.current? monitor
    | some (before, d) => (∃ later, before.Awaits (d :: later)) ∧
        (before.deliver e d).2.store.history monitor ≠ before.store.history monitor ∧
        (m.afterAll e ds).store.history monitor = (before.deliver e d).2.store.history monitor ∧
        (m.afterAll e ds).board.current? monitor = (before.deliver e d).2.board.current? monitor := by
  induction ds generalizing m with
  | nil => exact ⟨rfl, rfl⟩
  | cons d ds ih =>
    have hrest := ih (h.deliver he)
    rw [lastChange?, Memory.afterAll]
    cases hlast : (m.deliver e d).2.lastChange? e monitor ds with
    | some change =>
      rw [hlast] at hrest
      exact hrest
    | none =>
      rw [hlast] at hrest
      obtain ⟨hhistory, hpointer⟩ := hrest
      by_cases hsame : (m.deliver e d).2.store.history monitor = m.store.history monitor
      . simp only [if_pos hsame]
        refine ⟨hhistory.trans hsame, hpointer.trans ?_⟩
        cases h.brings he monitor with
        | nothing _ hkept => exact hkept
        | pointed _ _ hlength => exact absurd (congrArg List.length hsame) hlength
        | unpointed _ _ _ hlength => exact absurd (congrArg List.length hsame) hlength
      . simp only [if_neg hsame]
        exact ⟨⟨ds, h⟩, hsame, hhistory, hpointer⟩

/--
While nothing changes the intervals of a monitor no record for it is repeated with success.
-/
theorem not_concludes (h : m.Awaits ds) (he : e.compound = .whole) {r : ChangeRequest}
    (hmonitor : r.monitorId = some monitor) (hstatus : r.statusId.isSome = true)
    (hnone : m.lastChange? e monitor ds = none) : m.concludes e (.record r) ds = false := by
  induction ds generalizing m with
  | nil => rfl
  | cons d ds ih =>
    rw [lastChange?] at hnone
    cases hlast : (m.deliver e d).2.lastChange? e monitor ds with
    | some change =>
      rw [hlast] at hnone
      cases hnone
    | none =>
      have hsame : (m.deliver e d).2.store.history monitor = m.store.history monitor := by
        simpa [hlast] using hnone
      have hr : d.request ≠ .record r := fun hr => (h.changes_iff he hr).2 ⟨hmonitor, hstatus⟩ hsame
      rw [concludes, decide_eq_false hr, ih (h.deliver he) hlast]
      rfl

/--
When a run is at rest, a record that has lost its pointer and was the last one to change its monitor's intervals was not
repeated because its caller gave up.
-/
theorem isFinal_of_rests (h : m.Awaits ds) (he : e.compound = .whole) (hrests : m.rests e ds = true) {before : Memory}
    {r : ChangeRequest} {err : Error} (hlast : m.lastChange? e monitor ds = some (before, d)) (hr : d.request = .record r)
    (hsink : d.sink = some err) : err.isFinal = true := by
  induction ds generalizing m with
  | nil => cases hlast
  | cons d' ds ih =>
    rw [rests, Bool.and_eq_true] at hrests
    rw [lastChange?] at hlast
    cases hlater : (m.deliver e d').2.lastChange? e monitor ds with
    | some change =>
      rw [hlater] at hlast
      exact ih (h.deliver he) hrests.2 (hlater.trans hlast)
    | none =>
      simp only [hlater] at hlast
      split at hlast
      . cases hlast
      next hchanged =>
      cases hlast
      obtain ⟨hmonitor, hstatus⟩ := (h.changes_iff he hr).1 hchanged
      have hnever := (h.deliver he).not_concludes he hmonitor hstatus hlater
      rw [← hr] at hnever
      have hdone := hrests.1
      rw [hnever, Bool.or_false] at hdone
      cases h.brings he monitor with
      | nothing hsame => exact absurd hsame hchanged
      | pointed _ hnone => cases hnone.symm.trans hsink
      | unpointed err' hsink' herr =>
        cases hsink'.symm.trans hsink
        rw [herr] at hdone
        exact hdone

end Awaits

theorem latestStatus?_congr {m' : Memory} (hm : m.Sound) (hm' : m'.Sound)
    (h : m'.store.history monitor = m.store.history monitor) : m'.latestStatus? monitor = m.latestStatus? monitor := by
  unfold latestStatus?
  rw [hm'.wellFormed.latest?_eq, hm.wellFormed.latest?_eq, h]

/--
In a run of records and deletions from an empty store in which the sink may refuse any pointer and callers repeat what
has failed until they are done, the pointer of each monitor that has intervals ends up with the status of the latest one
exactly when it is not led astray, by a deletion or an error on which its caller gave up.
-/
theorem pointer_recovered_iff (e : Engine) (he : e.compound = .whole) (directory : Directory) (ds : List Delivery)
    (hids : (ds.map (·.stamp.id)).Nodup) (hwrites : ∀ d ∈ ds, d.request.Writes)
    (hrests : rests e { directory } ds = true) (monitor : Uuid)
    (hne : (afterAll e { directory } ds).store.history monitor ≠ []) :
    (afterAll e { directory } ds).board.current? monitor = (afterAll e { directory } ds).latestStatus? monitor ↔
      astray e { directory } monitor ds = false := by
  have hstart : Awaits { directory } ds := ⟨.start directory, hwrites, hids, fun _ _ => rfl⟩
  have hlast := hstart.lastChange he monitor
  unfold astray
  cases hchange : lastChange? e { directory } monitor ds with
  | none =>
    rw [hchange] at hlast
    exact absurd hlast.1 hne
  | some change =>
    obtain ⟨before, d⟩ := change
    rw [hchange] at hlast
    obtain ⟨⟨later, hbefore⟩, hchanged, hhistory, hpointer⟩ := hlast
    rw [hpointer, latestStatus?_congr (hbefore.deliver he).sound (hstart.afterAll he) hhistory]
    cases hbefore.brings he monitor with
    | nothing hsame => exact absurd hsame hchanged
    | pointed latest hsink _ hlatest hset =>
      simp only [hsink, hset, latestStatus?, hlatest, Option.map_some]
    | unpointed err hsink _ _ hkept =>
      have hforsaken : (d.request.isDeletion || err.isFinal) = true := by
        cases hr : d.request with
        | delete id => rfl
        | record r =>
          rw [hstart.isFinal_of_rests he hrests hchange hr hsink]
          rfl
        | _ =>
          have hw := hbefore.writes d List.mem_cons_self
          rw [hr] at hw
          exact hw.elim
      simp only [hsink, hkept, hforsaken, Bool.true_and, decide_eq_false_iff_not, ne_eq, Decidable.not_not]

/--
A run with two intervals of a monitor, of which the later one is deleted while the sink is down. The caller repeats the
deletion and learns that there is no such interval.
-/
def forsaken : List Delivery :=
  let delivery (request : Request) (serial : Nat) (sink : Option Error) : Delivery :=
    { request, stamp := { id := .ofSerial serial, now := .ofNanos 9000 }, sink }
  let record (serial : Nat) : Request :=
    .record { monitorId := some (.ofSerial 1), statusId := some (.ofSerial serial) }
  [delivery (record 2) 11 none, delivery (record 3) 12 none,
    delivery (.delete (.ofSerial 12)) 13 (some (.collaborator "sink down")), delivery (.delete (.ofSerial 12)) 14 none]

/--
At rest the pointer has the status of the interval that was deleted.
-/
theorem pointer_lost_forsaken :
    (forsaken.map (·.stamp.id)).Nodup ∧ (∀ d ∈ forsaken, d.request.Writes ∧ d.request.StartsNow) ∧
      rests {} {} forsaken = true ∧
      (afterAll {} {} forsaken).latestStatus? (.ofSerial 1) = some (.ofSerial 2) ∧
      (afterAll {} {} forsaken).board.current? (.ofSerial 1) = some (.ofSerial 3) :=
  ⟨by decide +kernel, by decide, by decide +kernel, by decide +kernel, by decide +kernel⟩

/--
A record that the sink refuses, and that its caller repeats.
-/
def repeated : List Delivery :=
  let delivery (serial : Nat) (sink : Option Error) : Delivery :=
    { request := .record { monitorId := some (.ofSerial 1), statusId := some (.ofSerial 2) }
      stamp := { id := .ofSerial serial, now := .ofNanos 9000 }
      sink }
  [delivery 11 (some (.collaborator "sink down")), delivery 12 none]

theorem pointer_recovered_iff_repeated :
    rests {} {} repeated = true ∧ (afterAll {} {} repeated).store.history (.ofSerial 1) ≠ [] ∧
      (afterAll {} {} (repeated.take 1)).board.current? (.ofSerial 1) = none ∧
      (afterAll {} {} repeated).board.current? (.ofSerial 1) =
        (afterAll {} {} repeated).latestStatus? (.ofSerial 1) := by
  have hrests : rests {} {} repeated = true := by decide +kernel
  have hne : (afterAll {} {} repeated).store.history (.ofSerial 1) ≠ [] := by decide +kernel
  refine ⟨hrests, hne, by decide +kernel, ?_⟩
  exact (pointer_recovered_iff {} rfl {} repeated (by decide +kernel) (by decide) hrests _ hne).2 (by decide +kernel)

end Runs

end Memory

end StatusTimeline
