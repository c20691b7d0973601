import StatusTimeline.Proofs.Interleaving.Serial

/-!
This module contains the proof that recording and deleting clients keep to the ledger: whatever a client has found out
under a monitor's lock still holds when its operation takes effect, so that the operation answers what it would have
answered when executed whole at that moment.
-/

namespace StatusTimeline.Interleaving

open Engine (lockKey)

variable {e : Engine} {m : Memory} {i : Nat} {M : Uuid} {l l' : Ledger}

section Record

variable {q : ChangeRequest} {status : Uuid} {rootCause : Option String}

theorem Ready.rootCause_later (hf : Follows e m i l l') (h : rootCause = l.shared.memory.rootCause e q) :
    rootCause = l'.shared.memory.rootCause e q := by
  rw [h, Memory.rootCause_congr hf.grown.directory]

theorem Ready.spec_search (user : Uuid) :
    (serial e m).Spec i (Ready e m i M r) (Call.resolve user).perform fun outcome l =>
      Ready e m i M r l ∧ outcome = .ok (.ofSearch (((serial e m).view l).memory.directory.find? user)) := by
  apply Interleaving.spec_search
  intro l₀ l en _ h₀ _ hf
  have h := h₀.later hf
  exact ⟨h.guards.lt, h.note en, rfl⟩

/--
A record has been appended, and its pointer is still to be set.
-/
structure Appended (e : Engine) (m : Memory) (i : Nat) (M : Uuid) (q : ChangeRequest) (close : Option Uuid)
    (interval : Interval) (l : Ledger) : Prop where
  guards : Guards i M l
  done : Done e m i (.record q)
    (.ok { interval, closedPrior := close, pointer := { monitorId := M, statusId := interval.statusId } }) l
  board : (m.after e l.turns).board.current? M = some interval.statusId

/--
An append that follows the latest interval succeeds, changes its monitor only, and is what the request served whole
comes to.
-/
theorem serve_extend (he : e.compound = .whole) (hmonitor : q.monitorId = some M)
    (hstatus : q.statusId = some status) (hl : Accounts e m l) {stamp : Stamp} (hd : stamp.id ∉ l.shared.drawn)
    {close : Option Uuid} (hroot : rootCause = l.shared.memory.rootCause e q)
    (hclose : close = (Row.latest? M l.shared.memory.store.rows).map (·.id)) :
    ∃ created store,
      l.shared.memory.store.append stamp (Engine.opening M status q rootCause) close = (.ok created, store) ∧
      (∀ M', M' ≠ M → Row.ofMonitor M' store.rows = Row.ofMonitor M' l.shared.memory.store.rows) ∧
      Memory.serve e (m.after e l.turns) stamp (.record q) =
        (.ok
          { interval := created
            closedPrior := close
            pointer := { monitorId := M, statusId := created.statusId } },
          { m.after e l.turns with
            store
            board := (m.after e l.turns).board.set { monitorId := M, statusId := created.statusId }
            locks := (m.after e l.turns).locks.cycled }) := by
  have hstored : ∀ prior, close = some prior → l.shared.memory.store.contains prior = true ∧
      l.shared.memory.store.Belongs prior M := by
    intro prior heq
    rw [hclose, Option.map_eq_some_iff] at heq
    obtain ⟨latest, hlatest, rfl⟩ := heq
    have hmem := Store.latest?_mem hlatest
    exact ⟨Store.contains_of_mem hmem, hl.sane.wellFormed.belongs hmem⟩
  obtain ⟨created, store, happ, _⟩ := Store.append_ok l.shared.memory.store stamp
    (Engine.opening M status q rootCause) fun prior heq => (hstored prior heq).1
  refine ⟨created, store, happ, ?_, ?_⟩
  . intro M' hne
    have hother : Row.ofMonitor M' (l.shared.memory.store.append stamp
        (Engine.opening M status q rootCause) close).2.rows = Row.ofMonitor M' l.shared.memory.store.rows :=
      Store.ofMonitor_append_of_ne (fun prior heq =>
        ⟨(hstored prior heq).2, fun hid => hd (hid ▸ hl.sane.contains_drawn (hstored prior heq).1)⟩) hne
    rw [happ] at hother
    exact hother
  . have hwhole : (m.after e l.turns).store.append stamp
        (Engine.opening M status q ((m.after e l.turns).rootCause e q))
        ((Row.latest? M (m.after e l.turns).store.rows).map (·.id)) = (.ok created, store) := by
      rw [hl.agrees.store, Memory.rootCause_congr hl.agrees.directory, ← hroot, ← hclose]
      exact happ
    have hserve := Memory.serve_record_ok he hl.agrees.idle hmonitor hstatus hwhole
    rw [hl.agrees.store, ← hclose] at hserve
    exact hserve

/--
The operation takes effect when its interval is appended: what it has found out before still holds.
-/
theorem spec_extend (he : e.compound = .whole) (hmonitor : q.monitorId = some M)
    (hstatus : q.statusId = some status) {close : Option Uuid} :
    (serial e m).Spec i
      (fun l => Ready e m i M (.record q) l ∧ rootCause = l.shared.memory.rootCause e q ∧
        close = (Row.latest? M l.shared.memory.store.rows).map (·.id))
      (e.append (Engine.opening M status q rootCause) close)
      fun outcome l => ∃ interval, outcome = .ok interval ∧ Appended e m i M q close interval l := by
  unfold Engine.append
  rw [he]
  apply spec_effect (M := M) (r := .record q)
  intro l₀ l stamp answer store h₀ ⟨hready, hroot, hclose⟩ hl hf hd hans
  -- the monitor's rows are as they were when the latest interval was looked up
  have hlatest : Row.latest? M l.shared.memory.store.rows = Row.latest? M l₀.shared.memory.store.rows := by
    unfold Row.latest?
    rw [(hf.held M hready.guards.held).1]
  rw [← hlatest] at hclose
  obtain ⟨created, store', happ, hothers, hserve⟩ :=
    serve_extend he hmonitor hstatus hl (hd rfl) (Ready.rootCause_later hf hroot) hclose
  rw [Store.answer, happ] at hans
  cases hans
  refine ⟨hready.later hf, _, _, _, hserve, rfl, ?_, hothers, ?_, ?_⟩
  . intro M' hne
    exact (Board.current?_set ..).trans (if_neg hne)
  . simp [Turn.draws, hmonitor, hstatus, StoreCall.draws]
  . intro l' hg hdone hboard _
    refine ⟨created, rfl, hg, hdone, ?_⟩
    rw [hboard]
    exact (Board.current?_set ..).trans (if_pos rfl)

theorem Appended.later {close : Option Uuid} {interval : Interval} (h : Appended e m i M q close interval l)
    (hf : Follows e m i l l') : Appended e m i M q close interval l' := by
  refine ⟨h.guards.later hf, h.done.later hf, ?_⟩
  rw [(hf.held M h.guards.held).2.2]
  exact h.board

theorem spec_point {close : Option Uuid} {interval : Interval} :
    (serial e m).Spec i (Appended e m i M q close interval)
      (Call.setPointer { monitorId := M, statusId := interval.statusId }).perform
      fun outcome l => outcome = .ok () ∧ Concluded e m i M (.record q) (.ok
        { interval, closedPrior := close, pointer := { monitorId := M, statusId := interval.statusId } }) l := by
  apply spec_put (M := M)
  intro l₀ l en _ h₀ _ hf
  have h := h₀.later hf
  have hset := Board.current?_set l.shared.memory.board { monitorId := M, statusId := interval.statusId } M
  rw [if_pos rfl] at hset
  exact ⟨h.guards, rfl, ⟨h.guards.lt, h.guards.held, h.guards.only⟩, h.board.trans hset.symm, h.done⟩

theorem spec_succession (he : e.compound = .whole) (hmonitor : q.monitorId = some M)
    (hstatus : q.statusId = some status) :
    (serial e m).Spec i
      (fun l => Ready e m i M (.record q) l ∧ rootCause = l.shared.memory.rootCause e q)
      (e.succeed (Engine.opening M status q rootCause))
      fun outcome l => Concluded e m i M (.record q) outcome l := by
  unfold Engine.succeed
  apply Discipline.spec_bind (R := fun outcome l => Ready e m i M (.record q) l ∧
    rootCause = l.shared.memory.rootCause e q ∧
      outcome = .ok (Row.latest? M l.shared.memory.store.rows))
  . apply spec_look rfl
    intro l₀ l stamp en _ ⟨h₀, hroot⟩ _ hf
    have h := h₀.later hf
    have hroot := Ready.rootCause_later hf hroot
    exact ⟨h.guards.lt, .inl ⟨h.note en, hroot, rfl⟩⟩
  . intro prior
    apply Discipline.spec_bind (R := fun outcome l => ∃ interval, outcome = .ok interval ∧
      Appended e m i M q (prior.map (·.id)) interval l)
    . apply Discipline.spec_weaken (spec_extend he hmonitor hstatus)
      intro l _ ⟨hready, hroot, hprior⟩
      exact ⟨hready, hroot, by rw [Except.ok.inj hprior]⟩
    . intro interval
      apply Discipline.spec_bind
      . apply Discipline.spec_weaken spec_point
        intro l _ ⟨interval', heq, h⟩
        cases heq
        exact h
      . intro _
        exact Discipline.spec_pure fun _ _ h => h.2
      . intro err l _ h
        cases h.1
    . intro err l _ ⟨_, habs, _⟩
      cases habs
  . intro err l _ h
    cases h.2.2

theorem spec_record (he : e.compound = .whole) (hmonitor : q.monitorId = some M)
    (hstatus : q.statusId = some status) {after : List Nat} :
    (serial e m).Spec i (fun l => Pending i (.record q) l ∧ HoldsNone i l) (e.record q)
      (settles e m i (.record q) after) := by
  unfold Engine.record
  simp only [hmonitor, hstatus]
  apply spec_guarded (R := fun _ => True)
  . intro l₀ l en _ ⟨hp, hnone⟩ _ hf
    exact ⟨hp.later hf, hnone.later hf, trivial⟩
  . rw [Engine.recordLocked_eq]
    apply Discipline.spec_bind
    . apply Discipline.spec_weaken (Discipline.spec_rootCause Ready.spec_search)
      exact fun _ _ h => h.1
    . intro rootCause
      apply Discipline.spec_weaken (spec_succession he hmonitor hstatus)
      intro l _ h
      exact ⟨h.1, Except.ok.inj h.2⟩
    . intro err l _ h
      cases h.2

end Record

section Delete

variable {id : Uuid} {t : Interval} {P : Ledger → Prop}

structure Knows (id M : Uuid) (l : Ledger) : Prop where
  drawn : id ∈ l.shared.drawn
  belongs : l.shared.memory.store.Belongs id M

theorem Knows.later (h : Knows id M l) (hf : Follows e m i l l') : Knows id M l' := by
  refine ⟨hf.grown.drawn _ h.drawn, ?_⟩
  intro r hr hid
  rcases hf.grown.origin r hr with hnew | ⟨r₀, hr₀, hid₀, hm₀⟩
  . exact absurd h.drawn (hid ▸ hnew)
  . rw [← hm₀]
    exact h.belongs r₀ hr₀ (hid₀.trans hid)

theorem inert_missing (he : e.compound = .whole) {serial : Memory} (hidle : serial.locks.claims = [])
    (hf : serial.store.find? id = none) (stamp : Stamp) :
    Inert e serial { request := .delete id, stamp } :=
  ⟨serial.locks, hidle, congrArg Prod.snd (Memory.serve_delete_none he hidle hf)⟩

theorem inert_only (he : e.compound = .whole) {serial : Memory} (hidle : serial.locks.claims = []) {row : Row}
    (hf : serial.store.find? id = some row)
    (hn : (Row.ofMonitor row.interval.monitorId serial.store.rows).length ≤ 1) (stamp : Stamp) :
    Inert e serial { request := .delete id, stamp } :=
  ⟨serial.locks.cycled, rfl, congrArg Prod.snd (Memory.serve_delete_only he hidle hf hn)⟩

/--
Looking the interval of a deletion up: where it is missing the deletion takes effect at once.
-/
theorem spec_find (he : e.compound = .whole) (id : Uuid) {A : Interval → Ledger → Prop} {B : Ledger → Prop}
    (h : ∀ l₀ l en, Accounts e m l₀ → P l₀ → Accounts e m l → Follows e m i l₀ l →
      i < l.begun.length ∧
        (∀ row, l.shared.memory.store.find? id = some row →
          A row.interval (l.share (l.shared.note en))) ∧
        (l.shared.memory.store.find? id = none → Pending i (.delete id) l ∧
          ∀ t, Inert e (m.after e l.turns) t →
            Done e m i (.delete id) (.error (.noInterval id)) ((l.share (l.shared.note en)).commit i t) →
              B ((l.share (l.shared.note en)).commit i t))) :
    (serial e m).Spec i P (Engine.get id) fun outcome l =>
      match outcome with
      | .ok t => A t l
      | .error err => err = .noInterval id ∧ B l := by
  unfold Engine.get
  apply Discipline.spec_bind (R := fun outcome l =>
    match outcome with
    | .ok (some t) => A t l
    | .ok none => B l
    | .error _ => False)
  . apply spec_look rfl
    intro l₀ l stamp en h₀ hP hl hf
    obtain ⟨hi, hfound, hmissing⟩ := h l₀ l en h₀ hP hl hf
    refine ⟨hi, ?_⟩
    simp only [Store.answer]
    cases hfind : l.shared.memory.store.find? id with
    | some row => exact .inl (hfound row hfind)
    | none =>
      right
      obtain ⟨hp, hB⟩ := hmissing hfind
      have hfind' : (m.after e l.turns).store.find? id = none := by
        rw [hl.agrees.store]
        exact hfind
      have hinert := inert_missing he hl.agrees.idle hfind' stamp
      refine ⟨{ request := .delete id, stamp }, hp, rfl, hinert, hB _ hinert (done_commit _ ?_)⟩
      rw [Memory.serve_delete_none he hl.agrees.idle hfind']
  . intro found
    cases found with
    | none => exact Discipline.spec_throw fun _ _ hB => ⟨rfl, hB⟩
    | some t => exact Discipline.spec_pure fun _ _ hA => hA
  . intro err l _ habs
    exact habs.elim

structure Located (id M : Uuid) (t : Interval) (l : Ledger) : Prop where
  mem : t ∈ l.shared.memory.store.history M
  id : t.id = id

theorem Located.later (h : Located id M t l) (hg : Guards i M l) (hf : Follows e m i l l') :
    Located id M t l' := by
  refine ⟨?_, h.id⟩
  unfold Store.history
  rw [(hf.held M hg.held).1]
  exact h.mem

theorem Located.find? (h : Located id M t l) (hl : Accounts e m l) :
    ∃ row, l.shared.memory.store.find? id = some row ∧ row.interval = t := by
  obtain ⟨row, hrow, heq, _⟩ := Store.mem_history.1 h.mem
  exact ⟨row, hl.sane.wellFormed.find?_eq_some_iff.2 ⟨hrow, by rw [heq, h.id]⟩, heq⟩

/--
The deletion of a monitor's only interval takes effect when the intervals are counted.
-/
theorem spec_count (he : e.compound = .whole) :
    (serial e m).Spec i (fun l => Ready e m i M (.delete id) l ∧ Located id M t l)
      (StoreCall.count M).perform fun outcome l => ∃ n, outcome = .ok n ∧
        if n ≤ 1 then Concluded e m i M (.delete id) (.error (.validation .onlyInterval)) l
        else Ready e m i M (.delete id) l ∧ Located id M t l ∧
          ¬ (Row.ofMonitor M l.shared.memory.store.rows).length ≤ 1 := by
  apply spec_look rfl
  intro l₀ l stamp en _ ⟨hready, ht⟩ hl hf
  have ht := ht.later hready.guards hf
  have hready := hready.later hf
  refine ⟨hready.guards.lt, ?_⟩
  simp only [Store.answer]
  by_cases hn : (Row.ofMonitor M l.shared.memory.store.rows).length ≤ 1
  . right
    obtain ⟨row, hfind, hrow⟩ := ht.find? hl
    have hfind : (m.after e l.turns).store.find? id = some row := by
      rw [hl.agrees.store]
      exact hfind
    have hcount : (Row.ofMonitor row.interval.monitorId (m.after e l.turns).store.rows).length ≤ 1 := by
      rw [hl.agrees.store, hrow, Store.monitorId_of_mem ht.mem]
      exact hn
    have hinert := inert_only he hl.agrees.idle hfind hcount stamp
    refine ⟨{ request := .delete id, stamp }, hready.pending, rfl, hinert, _, rfl, ?_⟩
    rw [if_pos hn]
    apply hready.conclude hinert
    apply done_commit
    rw [Memory.serve_delete_only he hl.agrees.idle hfind hcount]
  . left
    refine ⟨_, rfl, ?_⟩
    rw [if_neg hn]
    exact ⟨hready.note en, ⟨ht.mem, ht.id⟩, hn⟩

/--
An interval has been cut out, and the pointer of its monitor is still to follow.
-/
structure Removed (e : Engine) (m : Memory) (i : Nat) (id M : Uuid) (t : Interval) (repair : Option EndRepair)
    (l : Ledger) : Prop where
  guards : Guards i M l
  done : Done e m i (.delete id)
    (.ok { deleted := t, repair, pointer := Memory.latestPointer l.shared.memory.store M }) l
  board : (m.after e l.turns).board.current? M =
    (l.shared.memory.putPointer (Memory.latestPointer l.shared.memory.store M)).board.current? M

theorem current?_putPointer {a b : Memory} (h : a.board.current? M = b.board.current? M)
    (pointer : Option PointerUpdate) :
    (a.putPointer pointer).board.current? M = (b.putPointer pointer).board.current? M := by
  cases pointer with
  | none => exact h
  | some update =>
    unfold Memory.putPointer
    rw [Board.current?_set, Board.current?_set, h]

theorem current?_putPointer_of_ne (memory : Memory) (store : Store) {M' : Uuid} (hne : M' ≠ M) :
    (memory.putPointer (Memory.latestPointer store M)).board.current? M' = memory.board.current? M' := by
  unfold Memory.latestPointer
  cases Row.latest? M store.rows with
  | none => rfl
  | some latest => exact (Board.current?_set ..).trans (if_neg hne)

theorem putPointer_eq (memory : Memory) (pointer : Option PointerUpdate) :
    memory.putPointer pointer = { memory with board := (memory.putPointer pointer).board } := by
  cases pointer <;> rfl

theorem latestPointer_later (hg : Guards i M l) (hf : Follows e m i l l') :
    Memory.latestPointer l'.shared.memory.store M = Memory.latestPointer l.shared.memory.store M := by
  unfold Memory.latestPointer Row.latest?
  rw [(hf.held M hg.held).1]

theorem Removed.later {repair : Option EndRepair} (h : Removed e m i id M t repair l)
    (hf : Follows e m i l l') : Removed e m i id M t repair l' := by
  obtain ⟨_, hboard, hserial⟩ := hf.held M h.guards.held
  refine ⟨h.guards.later hf, ?_, ?_⟩
  . rw [latestPointer_later h.guards hf]
    exact h.done.later hf
  . rw [latestPointer_later h.guards hf, hserial, h.board]
    exact current?_putPointer hboard.symm _

/--
A deletion that follows the neighbours of one of several intervals succeeds, changes its monitor only, and is what the
request served whole comes to.
-/
theorem serve_remove (he : e.compound = .whole) (hl : Accounts e m l) (ht : Located id M t l)
    (hn : ¬ (Row.ofMonitor M l.shared.memory.store.rows).length ≤ 1) {nb : Neighbors}
    (hnb : nb = Row.neighbors M t.startsAt l.shared.memory.store.rows) (stamp : Stamp) :
    ∃ store, l.shared.memory.store.applyDeletion (.restitch t nb) = (.ok (), store) ∧
      (∀ M', M' ≠ M → Row.ofMonitor M' store.rows = Row.ofMonitor M' l.shared.memory.store.rows) ∧
      Memory.serve e (m.after e l.turns) stamp (.delete id) =
        (.ok
          { deleted := t
            repair := (DeletionPlan.restitch t nb).repair
            pointer := Memory.latestPointer store M },
          { { m.after e l.turns with store }.putPointer (Memory.latestPointer store M) with
            locks := (m.after e l.turns).locks.cycled }) := by
  have hrepair : ∀ repair, (DeletionPlan.restitch t nb).repair = some repair →
      l.shared.memory.store.contains repair.intervalId = true ∧
        l.shared.memory.store.Belongs repair.intervalId M := by
    intro repair heq
    simp only [DeletionPlan.restitch, Option.map_eq_some_iff] at heq
    obtain ⟨before, hbefore, rfl⟩ := heq
    rw [hnb] at hbefore
    have hmem := Store.before_mem hbefore
    exact ⟨Store.contains_of_mem hmem, hl.sane.wellFormed.belongs hmem⟩
  obtain ⟨store, happ⟩ := Store.applyDeletion_ok (.restitch t nb) (Store.contains_of_mem ht.mem)
    fun repair heq => (hrepair repair heq).1
  refine ⟨store, happ, ?_, ?_⟩
  . intro M' hne
    have hother : Row.ofMonitor M' (l.shared.memory.store.applyDeletion (.restitch t nb)).2.rows =
        Row.ofMonitor M' l.shared.memory.store.rows :=
      Store.ofMonitor_applyDeletion_of_ne (hl.sane.wellFormed.belongs ht.mem)
        (fun repair heq => (hrepair repair heq).2) hne
    rw [happ] at hother
    exact hother
  . obtain ⟨row, hfind, hrow⟩ := ht.find? hl
    have hM := Store.monitorId_of_mem ht.mem
    rw [← hl.agrees.store] at hfind hn hnb happ
    rw [← hM, ← hrow] at hn hnb
    have hwhole : (m.after e l.turns).store.applyDeletion (.restitch row.interval
        (Row.neighbors row.interval.monitorId row.interval.startsAt (m.after e l.turns).store.rows)) =
          (.ok (), store) := by
      rw [← hnb, hrow]
      exact happ
    have hserve : Memory.serve e (m.after e l.turns) stamp (.delete id) = _ :=
      Memory.serve_delete_ok he hl.agrees.idle hfind hn hwhole
    rw [← hnb, hrow, hM] at hserve
    exact hserve

/--
The deletion takes effect when its interval is cut out: what it has found out before still holds.
-/
theorem spec_remove (he : e.compound = .whole) {nb : Neighbors} :
    (serial e m).Spec i
      (fun l => Ready e m i M (.delete id) l ∧ Located id M t l ∧
        ¬ (Row.ofMonitor M l.shared.memory.store.rows).length ≤ 1 ∧
        nb = Row.neighbors M t.startsAt l.shared.memory.store.rows)
      (e.applyDeletion (.restitch t nb))
      fun outcome l => outcome = .ok () ∧
        Removed e m i id M t (DeletionPlan.restitch t nb).repair l := by
  unfold Engine.applyDeletion
  rw [he]
  apply spec_effect (M := M) (r := .delete id)
  intro l₀ l stamp answer store _ ⟨hready, ht, hn, hnb⟩ hl hf _ hans
  have ht := ht.later hready.guards hf
  -- the monitor's rows are as they were when the neighbours were looked up
  have hrows := (hf.held M hready.guards.held).1
  have hnb : nb = Row.neighbors M t.startsAt l.shared.memory.store.rows := by
    rw [hnb]
    unfold Row.neighbors
    rw [hrows]
  rw [← hrows] at hn
  have hready := hready.later hf
  obtain ⟨store', happ, hothers, hserve⟩ := serve_remove he hl ht hn hnb stamp
  rw [Store.answer, happ] at hans
  cases hans
  rw [putPointer_eq] at hserve
  refine ⟨hready, _, _, _, hserve, rfl, ?_, hothers, rfl, ?_⟩
  . intro M' hne
    exact current?_putPointer_of_ne _ store hne
  . intro l' hg hdone hboard hmemory
    refine ⟨rfl, hg, ?_, ?_⟩
    . rw [hmemory]
      exact hdone
    . rw [hboard, hmemory]
      exact current?_putPointer (a := { m.after e l.turns with store })
        (b := { l.shared.memory with store }) hready.points _

theorem spec_repoint {repair : Option EndRepair} (latest : Interval) :
    (serial e m).Spec i
      (fun l => Removed e m i id M t repair l ∧ some latest = Row.latest? M l.shared.memory.store.rows)
      (Call.setPointer { monitorId := M, statusId := latest.statusId }).perform
      fun outcome l => outcome = .ok () ∧ Concluded e m i M (.delete id)
        (.ok { deleted := t, repair, pointer := some { monitorId := M, statusId := latest.statusId } }) l := by
  apply spec_put (M := M)
  intro l₀ l en _ ⟨h₀, hlatest⟩ _ hf
  have hpointer : Memory.latestPointer l.shared.memory.store M =
      some { monitorId := M, statusId := latest.statusId } := by
    rw [latestPointer_later h₀.guards hf]
    unfold Memory.latestPointer
    rw [← hlatest]
    rfl
  have h := h₀.later hf
  have hdone := h.done
  have hboard := h.board
  rw [hpointer] at hdone hboard
  exact ⟨h.guards, rfl, ⟨h.guards.lt, h.guards.held, h.guards.only⟩, hboard, hdone⟩

theorem Removed.conclude {repair : Option EndRepair} (h : Removed e m i id M t repair l)
    (hlatest : none = Row.latest? M l.shared.memory.store.rows) :
    Concluded e m i M (.delete id) (.ok { deleted := t, repair, pointer := none }) l := by
  have hpointer : Memory.latestPointer l.shared.memory.store M = none := by
    unfold Memory.latestPointer
    rw [← hlatest]
    rfl
  have hdone := h.done
  have hboard := h.board
  rw [hpointer] at hdone hboard
  exact ⟨h.guards, hboard, hdone⟩

/--
A deletion is done once the pointer of its monitor follows.
-/
theorem spec_follow {repair : Option EndRepair} :
    (serial e m).Spec i (Removed e m i id M t repair) (Engine.settle M) fun outcome l =>
      ∃ pointer, outcome = .ok pointer ∧
        Concluded e m i M (.delete id) (.ok { deleted := t, repair, pointer }) l := by
  unfold Engine.settle
  apply Discipline.spec_bind (R := fun outcome l => Removed e m i id M t repair l ∧
    outcome = .ok (Row.latest? M l.shared.memory.store.rows))
  . apply spec_look rfl
    intro l₀ l stamp en _ h₀ _ hf
    have h := h₀.later hf
    exact ⟨h.guards.lt, .inl ⟨⟨⟨h.guards.lt, h.guards.held, h.guards.only⟩, h.done, h.board⟩, rfl⟩⟩
  . intro latest
    cases latest with
    | some latest =>
      apply Discipline.spec_bind
      . apply Discipline.spec_weaken (spec_repoint latest)
        exact fun l _ h => ⟨h.1, Except.ok.inj h.2⟩
      . intro _
        exact Discipline.spec_pure fun _ _ h => ⟨_, rfl, h.2⟩
      . intro err l _ h
        cases h.1
    | none => exact Discipline.spec_pure fun l _ h => ⟨none, rfl, h.1.conclude (Except.ok.inj h.2)⟩
  . intro err l _ h
    cases h.2

theorem spec_cutOut (he : e.compound = .whole) (ht : t.monitorId = M) :
    (serial e m).Spec i
      (fun l => Ready e m i M (.delete id) l ∧ Located id M t l ∧
        ¬ (Row.ofMonitor M l.shared.memory.store.rows).length ≤ 1)
      (e.cutOut t) fun outcome l => Concluded e m i M (.delete id) outcome l := by
  unfold Engine.cutOut
  rw [ht]
  apply Discipline.spec_bind (R := fun outcome l => ∃ nb, outcome = .ok nb ∧
    Ready e m i M (.delete id) l ∧ Located id M t l ∧
      ¬ (Row.ofMonitor M l.shared.memory.store.rows).length ≤ 1 ∧
        nb = Row.neighbors M t.startsAt l.shared.memory.store.rows)
  . apply spec_look rfl
    intro l₀ l stamp en _ ⟨hready, ht, hn⟩ _ hf
    rw [← (hf.held M hready.guards.held).1] at hn
    have ht := ht.later hready.guards hf
    have hready := hready.later hf
    exact ⟨hready.guards.lt, .inl ⟨_, rfl, hready.note en, ⟨ht.mem, ht.id⟩, hn, rfl⟩⟩
  . intro nb
    apply Discipline.spec_bind (R := fun outcome l => outcome = .ok () ∧
      Removed e m i id M t (DeletionPlan.restitch t nb).repair l)
    . apply Discipline.spec_weaken (spec_remove he)
      intro l _ ⟨nb', heq, h⟩
      cases heq
      exact h
    . intro _
      apply Discipline.spec_bind
      . apply Discipline.spec_weaken spec_follow
        exact fun l _ h => h.2
      . intro pointer
        apply Discipline.spec_pure
        intro l _ ⟨pointer', heq, h⟩
        cases heq
        exact h
      . intro err l _ ⟨_, habs, _⟩
        cases habs
    . intro err l _ h
      cases h.1
  . intro err l _ ⟨_, habs, _⟩
    cases habs

theorem spec_cutOutOne (he : e.compound = .whole) (ht : t.monitorId = M) :
    (serial e m).Spec i (fun l => Ready e m i M (.delete id) l ∧ Located id M t l)
      (e.cutOutOne t) fun outcome l => Concluded e m i M (.delete id) outcome l := by
  unfold Engine.cutOutOne
  rw [ht]
  apply Discipline.spec_bind (spec_count he)
  . intro n
    split
    . next hn =>
      apply Discipline.spec_throw
      intro l _ ⟨n', heq, h⟩
      cases heq
      rw [if_pos hn] at h
      exact h
    . next hn =>
      apply Discipline.spec_weaken (spec_cutOut he ht)
      intro l _ ⟨n', heq, h⟩
      cases heq
      rw [if_neg hn] at h
      exact h
  . intro err l _ ⟨_, habs, _⟩
    cases habs

theorem spec_deleteLocked (he : e.compound = .whole) :
    (serial e m).Spec i (fun l => Ready e m i M (.delete id) l ∧ Knows id M l) (e.deleteLocked id)
      fun outcome l => Concluded e m i M (.delete id) outcome l := by
  rw [Engine.deleteLocked_eq]
  apply Discipline.spec_bind
  . apply spec_find he id
      (A := fun t l => Ready e m i M (.delete id) l ∧ Located id M t l)
      (B := Concluded e m i M (.delete id) (.error (.noInterval id)))
    intro l₀ l en _ ⟨hready, hknows⟩ _ hf
    have hknows := hknows.later hf
    have hready := hready.later hf
    refine ⟨hready.guards.lt, ?_, ?_⟩
    . intro row hrow
      have hmem := Store.find?_mem hrow
      exact ⟨hready.note en, Store.mem_history.2 ⟨row, hmem.1, rfl, hknows.belongs row hmem.1 hmem.2⟩, hmem.2⟩
    . intro _
      exact ⟨hready.pending, fun t hinert hdone => hready.conclude hinert hdone⟩
  . intro t
    -- the interval is of the monitor whose lock was taken for it
    by_cases ht : t.monitorId = M
    . exact spec_cutOutOne he ht
    . intro l _ h
      exact absurd (Store.monitorId_of_mem h.2.mem) ht
  . intro err l _ ⟨heq, h⟩
    rw [heq]
    exact h

theorem spec_delete (he : e.compound = .whole) {after : List Nat} :
    (serial e m).Spec i (fun l => Pending i (.delete id) l ∧ HoldsNone i l) (e.delete id)
      (settles e m i (.delete id) after) := by
  unfold Engine.delete
  apply Discipline.spec_bind
  . apply spec_find he id
      (A := fun t l => Pending i (.delete id) l ∧ HoldsNone i l ∧ Knows id t.monitorId l)
      (B := fun l => HoldsNone i l ∧ Done e m i (.delete id) (.error (.noInterval id)) l)
    intro l₀ l en _ ⟨hp, hnone⟩ hl hf
    have hp := hp.later hf
    have hnone := hnone.later hf
    refine ⟨hp.lt, ?_, ?_⟩
    . intro row hrow
      obtain ⟨hmem, hid⟩ := Store.find?_mem hrow
      refine ⟨⟨hp.begun, hp.absent⟩, hnone, ?_, ?_⟩
      . exact hid ▸ hl.sane.known row hmem
      . exact hid ▸ hl.sane.wellFormed.belongs (Store.mem_history.2 ⟨row, hmem, rfl, rfl⟩)
    . intro _
      exact ⟨hp, fun t _ hdone => ⟨hnone, hdone⟩⟩
  . intro target
    apply spec_guarded (R := Knows id target.monitorId)
    . intro l₀ l en _ ⟨hp, hnone, hknows⟩ _ hf
      have hknows := hknows.later hf
      exact ⟨hp.later hf, hnone.later hf, ⟨hknows.drawn, hknows.belongs⟩⟩
    . exact spec_deleteLocked he
  . intro err l _ ⟨heq, hnone, hdone⟩
    rw [heq]
    exact ⟨hnone, .inr hdone⟩

end Delete

section Requests

variable {r : Request}

def Incomplete : Request → Prop
  | .record q => q.monitorId = none ∨ q.statusId = none
  | _ => False

theorem refused_of_incomplete (h : Incomplete r) (e : Engine) : ∃ err, r.operation e = throw err := by
  cases r with
  | record q =>
    show ∃ err, e.record q = throw err
    unfold Engine.record
    cases hmonitor : q.monitorId with
    | none => exact ⟨.validation .missingMonitor, rfl⟩
    | some monitor =>
      have hstatus : q.statusId = none := by simpa [Incomplete, hmonitor] using h
      rw [hstatus]
      exact ⟨.validation .missingStatus, rfl⟩
  | _ => cases h

theorem draws_of_incomplete (h : Incomplete r) (stamp : Stamp) : Turn.draws { request := r, stamp } = [] := by
  cases r with
  | record q =>
    cases h with
    | inl h => simp [Turn.draws, h]
    | inr h => simp [Turn.draws, h]
  | _ => cases h

/--
Requests that record or delete and lack nothing are done, or have given up waiting for the lock.
-/
theorem spec_request (he : e.compound = .whole) (hr : r.Writes) (hc : ¬ Incomplete r) {after : List Nat} :
    (serial e m).Spec i (fun l => Pending i r l ∧ HoldsNone i l) (r.operation e) (settles e m i r after) := by
  cases r with
  | record q =>
    unfold Incomplete at hc
    rw [not_or] at hc
    obtain ⟨monitor, hmonitor⟩ := Option.ne_none_iff_exists'.1 hc.1
    obtain ⟨status, hstatus⟩ := Option.ne_none_iff_exists'.1 hc.2
    exact spec_record he hmonitor hstatus
  | delete id => exact spec_delete he
  | _ => cases hr

end Requests

end StatusTimeline.Interleaving
