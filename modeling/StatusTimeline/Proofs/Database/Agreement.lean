import Mathlib.Data.List.Induction
import StatusTimeline.Proofs.Database.Serve
import StatusTimeline.Proofs.Engine.Once
import StatusTimeline.Proofs.Store.Mirror
import StatusTimeline.Proofs.Text.Uuid

/-!
This module contains the agreement of engines whose collaborators live in memory and in a database. They answer alike and
go on to hold the same, as long as requests give nothing that the database refuses or does not keep exactly.
-/

namespace StatusTimeline

theorem Table.refusesText_lockKey (monitor : Uuid) : refusesText (Engine.lockKey monitor) = false := by
  have hdigit : ∀ d < 16, digitChar d ≠ '\x00' := by decide
  rw [refusesText, Engine.lockKey, Uuid.text, String.toList_ofList, List.any_eq_false]
  intro c hc
  rcases Uuid.mem_chars hc with rfl | ⟨d, hd, rfl⟩
  . decide
  . simpa using hdigit d hd

theorem Store.after_mem {s : Store} {monitor : Uuid} {at_ : Instant} {i : Interval}
    (h : (Row.neighbors monitor at_ s.rows).after = some i) : i ∈ s.intervals := by
  unfold Row.neighbors at h
  rw [Option.map_eq_some_iff] at h
  obtain ⟨r, hr, rfl⟩ := h
  have hmem := (List.mem_filter.1 (greatest?_mem hr)).1
  exact List.mem_map_of_mem (List.mem_filter.1 hmem).1

namespace Interval

/--
Whether an interval belongs to a monitor that is known, and starts at a time that the database keeps exactly.
-/
def Held (known : List Uuid) (i : Interval) : Prop := i.monitorId ∈ known ∧ i.startsAt.OnMicros

variable {known : List Uuid} {is : List Interval}

theorem held_map_endAt (h : ∀ i ∈ is, i.Held known) (id : Uuid) (e : Option Instant) :
    ∀ i ∈ is.map (endAt id e), i.Held known := by
  rw [List.forall_mem_map]
  intro i hi
  unfold endAt
  split <;> exact h i hi

theorem held_closing (h : ∀ i ∈ is, i.Held known) (close : Option Uuid) (e : Instant) :
    ∀ i ∈ closing close e is, i.Held known := by
  cases close with
  | none => exact h
  | some id => exact held_map_endAt h id (some e)

theorem held_applyTo (h : ∀ i ∈ is, i.Held known) (plan : DeletionPlan) :
    ∀ i ∈ plan.applyTo is, i.Held known := by
  unfold DeletionPlan.applyTo
  cases plan.repair with
  | none => exact fun i hi => h i (List.mem_filter.1 hi).1
  | some repair => exact fun i hi => held_map_endAt h _ _ i (List.mem_filter.1 hi).1

end Interval

namespace Store

variable {s : Store} {known : List Uuid}

theorem held_append (h : ∀ i ∈ s.intervals, i.Held known) {stamp : Stamp} {new : NewInterval} (hnew : new.Kept)
    (hknown : new.monitorId ∈ known) (hnow : s.Ticks stamp.now) (close : Option Uuid) :
    ∀ i ∈ (s.append stamp new close).2.intervals, i.Held known := by
  rcases s.intervals_append stamp new close with ⟨created, hok, hintervals⟩ | ⟨err, herr⟩
  . have hcreated : created = new.materialise stamp.id stamp.now := by
      rw [append_created (Prod.ext hok rfl), hnow.nextCreatedAt]
    rw [hintervals]
    apply Interval.held_closing
    rw [List.forall_mem_append, List.forall_mem_singleton, hcreated]
    refine ⟨h, hknown, ?_⟩
    show (new.startsAt.getD stamp.now).OnMicros
    cases hstart : new.startsAt with
    | none => exact hnow.micros
    | some start => exact hnew.startsAt start hstart
  . rw [herr]
    exact h

theorem held_applyDeletion (h : ∀ i ∈ s.intervals, i.Held known) (plan : DeletionPlan) :
    ∀ i ∈ (s.applyDeletion plan).2.intervals, i.Held known := by
  rcases s.intervals_applyDeletion plan with ⟨_, hintervals⟩ | ⟨err, herr⟩
  . rw [hintervals]
    exact Interval.held_applyTo h plan
  . rw [herr]
    exact h

theorem held_purge (h : ∀ i ∈ s.intervals, i.Held known) (cutoff : Instant) :
    ∀ i ∈ (s.purge cutoff).2.intervals, i.Held known := by
  intro i hi
  obtain ⟨r, hr, rfl⟩ := List.mem_map.1 hi
  exact h _ (List.mem_map_of_mem (List.mem_filter.1 hr).1)

end Store

theorem Memory.lastCreatedAt_serve {e : Engine} (he : e.compound = .whole) {m : Memory} (hidle : m.locks.claims = [])
    (t : Turn) :
    (serve e m t.stamp t.request).2.store.lastCreatedAt = m.store.lastCreatedAt ∨
      t.draws ≠ [] ∧ (serve e m t.stamp t.request).2.store.lastCreatedAt =
        some (m.store.nextCreatedAt t.stamp.now) := by
  by_cases hwrites : t.request.Writes
  . rcases (serve_writes he hidle hwrites).2 with heq | ⟨new, close, hdraws, heq⟩ | ⟨plan, heq⟩
    . exact .inl (congrArg Store.lastCreatedAt heq)
    . rw [heq, hdraws]
      exact (Store.lastCreatedAt_append ..).imp_right fun h => ⟨by simp, h⟩
    . rw [heq]
      exact .inl (Store.lastCreatedAt_applyDeletion ..)
  . left
    cases hr : t.request with
    | record r => exact absurd (hr ▸ trivial) hwrites
    | delete id => exact absurd (hr ▸ trivial) hwrites
    | get id => rw [serve_get_snd]
    | _ => rfl

/--
A memory and a database that hold the same intervals, pointers and users, the one with `locks` and the other with
`leases` taken.
-/
structure Twins (known : List Uuid) (users : Directory) (locks : Slots) (leases : LeaseTable) (m : Memory)
    (db : Database) : Prop where
  intervals : db.intervals.Mirrors m.store
  pointers : ∀ M, db.current? M = m.board.current? M
  monitors : ∃ rows, db.monitors = some rows ∧ ∀ M ∈ known, M ∈ rows.map (·.id)
  directory : m.directory = users
  userTable : db.users = some users
  locks : m.locks = locks
  leases : db.leases = leases
  opened : db.closed = false
  held : ∀ i ∈ m.store.intervals, i.Held known

/--
Whether an operation comes to the same in memory and in the database, both at one turn.
-/
abbrev DatabaseTurn.Agrees (t : DatabaseTurn) (ttl : Span) (x : Operation α) (m : Memory) (db : Database)
    (Q : Except Error α → Memory → Database → Prop) : Prop :=
  Operation.Agrees (fun m c => Memory.answer m t.stamp c) (Database.reply ttl t) x m db Q

namespace Twins

variable {known : List Uuid} {users : Directory} {locks : Slots} {leases : LeaseTable} {m : Memory} {db : Database}
  {ttl : Span} {t : DatabaseTurn} {e : Engine}

section Calls

theorem store (h : Twins known users locks leases m db) {c : StoreCall} (hc : c.Exact m.store t.stamp.now)
    (hheld : ∀ i ∈ (m.store.answer t.stamp c).2.intervals, i.Held known)
    {Q : Except Error c.Answer → Memory → Database → Prop}
    (hQ : ∀ db', Twins known users locks leases { m with store := (m.store.answer t.stamp c).2 } db' →
      Q (m.store.answer t.stamp c).1 { m with store := (m.store.answer t.stamp c).2 } db') :
    t.Agrees ttl c.perform m db Q := by
  have hnow : c.draws = true → (t.stampAt c).now = t.stamp.now := by
    intro hdraws
    simp [DatabaseTurn.stampAt, hdraws]
  obtain ⟨intervals, hanswer, hmirrors⟩ := h.intervals.answer hc hnow
  have hreply : Database.reply ttl t db (.store c) = ((m.store.answer t.stamp c).1, { db with intervals }) := by
    show db.answer { t.stamp with now := (t.stampAt c).now } c = _
    simp only [Database.answer, Database.guarded, h.opened, Bool.false_eq_true, if_false, hanswer]
  exact Operation.agrees_call rfl hreply (hQ _ { h with intervals := hmirrors, held := hheld })

theorem read (h : Twins known users locks leases m db) {c : StoreCall} (hread : c.isRead = true)
    (hc : c.Exact m.store t.stamp.now) {Q : Except Error c.Answer → Memory → Database → Prop}
    (hQ : ∀ db', Twins known users locks leases m db' → Q (m.store.answer t.stamp c).1 m db') :
    t.Agrees ttl c.perform m db Q := by
  have hsame : (m.store.answer t.stamp c).2 = m.store := StoreCall.answer_of_isRead hread
  apply h.store hc
  . rw [hsame]
    exact h.held
  . rw [hsame]
    exact hQ

theorem setPointer (h : Twins known users locks leases m db) {update : PointerUpdate}
    (hknown : update.monitorId ∈ known) {Q : Except Error Unit → Memory → Database → Prop}
    (hQ : ∀ db', Twins known users locks leases { m with board := m.board.set update } db' →
      Q (.ok ()) { m with board := m.board.set update } db') :
    t.Agrees ttl (Call.setPointer update).perform m db Q := by
  obtain ⟨rows, hrows, hall⟩ := h.monitors
  obtain ⟨rows', hset, hids, hcurrent⟩ := Database.setPointer_ok h.opened hrows
    (t.clock (.setPointer update)) (hall _ hknown)
  have hreply : Database.reply ttl t db (.setPointer update) = (.ok (), { db with monitors := some rows' }) := hset
  refine Operation.agrees_call rfl hreply (hQ _ { h with pointers := ?_, monitors := ⟨rows', rfl, hids ▸ hall⟩ })
  intro M
  rw [hcurrent, Board.current?_set, h.pointers]

theorem resolve (h : Twins known users locks leases m db) (user : Uuid)
    {Q : Except Error Lookup → Memory → Database → Prop} (hQ : Q (.ok (.ofSearch (users.find? user))) m db) :
    t.Agrees ttl (Call.resolve user).perform m db Q := by
  have hreply : Database.reply ttl t db (.resolve user) = (.ok (.ofSearch (users.find? user)), db) := by
    simp [Database.reply, Database.resolve, h.opened, h.userTable, Except.map]
  have hanswer : Memory.answer m t.stamp (.resolve user) = (.ok (.ofSearch (users.find? user)), m) := by
    simp only [Memory.answer, h.directory]
  exact Operation.agrees_call hanswer hreply hQ

end Calls

section Stages

theorem rootCause (h : Twins known users locks leases m db) {r : ChangeRequest}
    (hgiven : r.rootCause.any Table.refusesText = false)
    (hnamed : ∀ user actor, users.find? user = some actor → Table.refusesText actor.rootCause = false)
    {Q : Except Error (Option String) → Memory → Database → Prop}
    (hQ : ∀ cause, cause.any Table.refusesText = false → Q (.ok cause) m db) :
    t.Agrees ttl (e.rootCause r) m db Q := by
  unfold Engine.rootCause
  cases hr : r.rootCause with
  | some given => exact Operation.agrees_pure (hQ _ (hr ▸ hgiven))
  | none =>
    unfold Engine.annotate
    cases r.initiatingUser with
    | none => exact Operation.agrees_pure (hQ none rfl)
    | some user =>
      cases e.directory with
      | false => exact Operation.agrees_pure (hQ none rfl)
      | true =>
        apply Operation.agrees_bind
        apply Operation.agrees_tryCatch
        apply h.resolve user
        cases hfound : users.find? user with
        | none => exact Operation.agrees_pure (hQ none rfl)
        | some actor => exact Operation.agrees_pure (hQ _ (hnamed user actor hfound))

theorem succeed (h : Twins known users locks leases m db) (he : e.compound = .whole) {new : NewInterval}
    (hnew : new.Kept) (hknown : new.monitorId ∈ known) (hnow : m.store.Ticks t.stamp.now) :
    t.Agrees ttl (e.succeed new) m db
      fun _ m' db' => Twins known users locks leases m' db' := by
  unfold Engine.succeed Engine.append
  simp only [he]
  apply Operation.agrees_bind
  apply h.read (by rfl) (by trivial)
  intro db₁ h₁
  apply Operation.agrees_bind
  apply h₁.store
  . exact ⟨hnew, hnow⟩
  . exact Store.held_append h₁.held hnew hknown hnow _
  intro db₂ h₂
  cases hanswer : (m.store.answer t.stamp (.append new ((Row.latest? new.monitorId m.store.rows).map (·.id)))).1 with
  | error err => exact h₂
  | ok created =>
    apply Operation.agrees_bind
    apply h₂.setPointer hknown
    intro db₃ h₃
    exact Operation.agrees_pure h₃

theorem settle (h : Twins known users locks leases m db) {monitor : Uuid} (hknown : monitor ∈ known) :
    t.Agrees ttl (Engine.settle monitor) m db
      fun _ m' db' => Twins known users locks leases m' db' := by
  unfold Engine.settle
  apply Operation.agrees_bind
  apply h.read (by rfl) (by trivial)
  intro db₁ h₁
  simp only [Store.answer]
  cases Row.latest? monitor m.store.rows with
  | none => exact Operation.agrees_pure h₁
  | some latest =>
    apply Operation.agrees_bind
    apply h₁.setPointer hknown
    intro db₂ h₂
    exact Operation.agrees_pure h₂

theorem cutOut (h : Twins known users locks leases m db) (he : e.compound = .whole) {target : Interval}
    (htarget : target ∈ m.store.intervals) :
    t.Agrees ttl (e.cutOut target) m db
      fun _ m' db' => Twins known users locks leases m' db' := by
  obtain ⟨hknown, hmicros⟩ := h.held target htarget
  unfold Engine.cutOut Engine.applyDeletion
  simp only [he]
  apply Operation.agrees_bind
  apply h.read (by rfl) (by exact hmicros)
  intro db₁ h₁
  simp only [Store.answer]
  generalize hneighbors : Row.neighbors target.monitorId target.startsAt m.store.rows = neighbors
  have hexact : (StoreCall.applyDeletion (.restitch target neighbors)).Exact m.store t.stamp.now := by
    obtain ⟨r, hr, rfl⟩ := List.mem_map.1 htarget
    refine ⟨Store.contains_iff.2 ⟨r, hr, rfl⟩, ?_⟩
    intro repair hrepair start hstart
    obtain ⟨_, _, rfl⟩ := Option.map_eq_some_iff.1 hrepair
    obtain ⟨i, hafter, rfl⟩ := Option.map_eq_some_iff.1 hstart
    exact (h.held i (Store.after_mem (hneighbors ▸ hafter))).2
  apply Operation.agrees_bind
  apply h₁.store hexact (Store.held_applyDeletion h₁.held _)
  intro db₂ h₂
  cases hanswer : (m.store.answer t.stamp (.applyDeletion (.restitch target neighbors))).1 with
  | error err => exact h₂
  | ok _ =>
    apply Operation.agrees_bind
    apply (h₂.settle hknown).mono
    intro outcome m' db' h₃
    cases outcome with
    | error err => exact h₃
    | ok pointer => exact Operation.agrees_pure h₃

theorem cutOutOne (h : Twins known users locks leases m db) (he : e.compound = .whole) {target : Interval}
    (htarget : target ∈ m.store.intervals) :
    t.Agrees ttl (e.cutOutOne target) m db
      fun _ m' db' => Twins known users locks leases m' db' := by
  unfold Engine.cutOutOne
  apply Operation.agrees_bind
  apply h.read (by rfl) (by trivial)
  intro db₁ h₁
  simp only [Store.answer]
  split
  . exact Operation.agrees_throw h₁
  . exact h₁.cutOut he htarget

theorem get (h : Twins known users locks leases m db) (id : Uuid)
    {Q : Except Error Interval → Memory → Database → Prop}
    (hnone : ∀ db', Twins known users locks leases m db' → Q (.error (.noInterval id)) m db')
    (hsome : ∀ i db', i ∈ m.store.intervals → Twins known users locks leases m db' → Q (.ok i) m db') :
    t.Agrees ttl (Engine.get id) m db Q := by
  unfold Engine.get
  apply Operation.agrees_bind
  apply h.read (by rfl) (by trivial)
  intro db₁ h₁
  simp only [Store.answer]
  cases hfound : m.store.find? id with
  | none => exact Operation.agrees_throw (hnone db₁ h₁)
  | some row =>
    have hmem := List.mem_map_of_mem (f := (·.interval)) (Store.find?_mem hfound).1
    exact Operation.agrees_pure (hsome _ db₁ hmem h₁)

theorem deleteLocked (h : Twins known users locks leases m db) (he : e.compound = .whole) (id : Uuid) :
    t.Agrees ttl (e.deleteLocked id) m db
      fun _ m' db' => Twins known users locks leases m' db' := by
  rw [Engine.deleteLocked_eq]
  apply Operation.agrees_bind
  apply h.get id
  . exact fun db' h' => h'
  . intro i db' hi h'
    exact h'.cutOutOne he hi

end Stages

section Locks

/--
A key that is free is leased at the first attempt.
-/
theorem reply_lock (ttl : Span) (t : DatabaseTurn) (hopened : db.closed = false) (hfree : db.leases = {}) (monitor : Uuid) :
    ∃ row : LeaseRow, row.key = Engine.lockKey monitor ∧ row.lease = t.lease ∧
      Database.reply ttl t db (.lock (Engine.lockKey monitor)) =
        (.ok { key := Engine.lockKey monitor, hold := .lease t.lease }, { db with leases := { rows := [row] } }) := by
  obtain ⟨row, hkey, hlease, hrow⟩ : ∃ row : LeaseRow, row.key = Engine.lockKey monitor ∧ row.lease = t.lease ∧
      LeaseTable.tryAcquire {} (Engine.lockKey monitor) t.lease (t.clock (.lock (Engine.lockKey monitor))) ttl =
        (true, { rows := [row] }) :=
    ⟨{ key := Engine.lockKey monitor, lease := t.lease, acquiredAt := _, expiresAt := _ }, rfl, rfl, rfl⟩
  refine ⟨row, hkey, hlease, ?_⟩
  simp only [Database.reply, Database.tryLease, Database.withLeases, Database.guarded, hopened, hfree,
    Table.refusesText_lockKey, Bool.false_eq_true, if_false, hrow]

theorem reply_release (hopened : db.closed = false) {monitor : Uuid} {row : LeaseRow}
    (hkey : row.key = Engine.lockKey monitor) (hlease : row.lease = t.lease) (htaken : db.leases = { rows := [row] }) :
    Database.reply ttl t db (.release { key := Engine.lockKey monitor, hold := .lease t.lease }) =
      (.ok (), { db with leases := {} }) := by
  simp [Database.reply, Database.releaseLease, Database.withLeases, Database.guarded, hopened, htaken,
    Table.refusesText_lockKey, LeaseTable.release, LeaseTable.isOwn, hkey, hlease]

/--
Where no lock is held on either side, what agrees under the lock agrees with it taken and given back.
-/
theorem locked (h : Twins known users locks {} m db) (hidle : locks.claims = []) {monitor : Uuid} {body : Operation α}
    (hbody : ∀ locks' leases' db', Twins known users locks' leases' { m with locks := locks' } db' →
      t.Agrees ttl body { m with locks := locks' } db' fun _ m' db' => Twins known users locks' leases' m' db') :
    t.Agrees ttl (Engine.locked monitor body) m db fun _ m' db' => Twins known users locks.cycled {} m' db' := by
  obtain ⟨hgranted, hgivenUp⟩ := Slots.giveUp_enter_of_idle hidle (Engine.lockKey monitor)
  obtain ⟨row, hkey, hlease, hreply⟩ := reply_lock ttl t h.opened h.leases monitor
  have hanswer : Memory.answer m t.stamp (.lock (Engine.lockKey monitor)) =
      (.ok { key := Engine.lockKey monitor, hold := .claim 0 (locks.enter (Engine.lockKey monitor)).1 },
        { m with locks := (locks.enter (Engine.lockKey monitor)).2 }) := by
    simp only [Memory.answer, h.locks, hgranted, if_true]
  apply Operation.agrees_locked hanswer hreply
  have h₁ : Twins known users (locks.enter (Engine.lockKey monitor)).2 { rows := [row] }
      { m with locks := (locks.enter (Engine.lockKey monitor)).2 } { db with leases := { rows := [row] } } :=
    { h with locks := rfl, leases := rfl }
  apply (hbody _ _ _ h₁).mono
  intro outcome m' db' h'
  refine ⟨{ m' with locks := locks.cycled }, { db' with leases := {} }, ?_, ?_, { h' with locks := rfl, leases := rfl }⟩
  . simp only [Memory.answer, Memory.giveUp, h'.locks, hgivenUp]
  . exact reply_release h'.opened hkey hlease h'.leases

end Locks

end Twins

/--
Whether a turn gives nothing that the database refuses or does not keep exactly, and its monitor is known.
-/
def DatabaseTurn.Shared (t : DatabaseTurn) (known : List Uuid) : Prop :=
  match t.request with
  | .record r => (∀ M ∈ r.monitorId, M ∈ known) ∧ (∀ start ∈ r.startsAt, start.OnMicros) ∧
    r.rootCause.any Table.refusesText = false
  | .purge cutoff => cutoff.OnMicros
  | _ => True

instance (t : DatabaseTurn) (known : List Uuid) : Decidable (t.Shared known) := by
  unfold DatabaseTurn.Shared
  split <;> infer_instance

/--
A run that memory and database can share: where intervals are inserted, the clock reads later and later times that the
database keeps exactly.
-/
structure SharedRun (known : List Uuid) (turns : List DatabaseTurn) : Prop where
  shared : ∀ t ∈ turns, t.Shared known
  micros : ∀ t ∈ turns, t.draws ≠ [] → t.stamp.now.OnMicros
  increasing : turns.Pairwise fun t u => t.draws ≠ [] → u.draws ≠ [] → t.stamp.now < u.stamp.now

theorem SharedRun.of_prefix {known : List Uuid} {earlier turns : List DatabaseTurn} (h : SharedRun known turns)
    (hpre : earlier <+: turns) : SharedRun known earlier where
  shared := fun t ht => h.shared t (hpre.subset ht)
  micros := fun t ht => h.micros t (hpre.subset ht)
  increasing := h.increasing.sublist hpre.sublist

theorem SharedRun.ticks {known : List Uuid} {earlier : List DatabaseTurn} {t : DatabaseTurn}
    (h : SharedRun known (earlier ++ [t])) (hdraws : t.draws ≠ []) {s : Store}
    (hlast : ∀ last ∈ s.lastCreatedAt, ∃ u ∈ earlier, u.draws ≠ [] ∧ last = u.stamp.now) : s.Ticks t.stamp.now where
  micros := h.micros t (by simp) hdraws
  later := by
    intro last hmem
    obtain ⟨u, hu, hudraws, rfl⟩ := hlast last hmem
    exact (List.pairwise_append.1 h.increasing).2.2 u hu t List.mem_cons_self hudraws hdraws

namespace Twins

variable {known : List Uuid} {users : Directory} {locks : Slots} {m : Memory} {db : Database} {ttl : Span}
  {t : DatabaseTurn} {e : Engine}

theorem record (h : Twins known users locks {} m db) (hidle : locks.claims = []) (he : e.compound = .whole)
    {r : ChangeRequest} (hknown : ∀ M ∈ r.monitorId, M ∈ known) (hstart : ∀ start ∈ r.startsAt, start.OnMicros)
    (hgiven : r.rootCause.any Table.refusesText = false)
    (hnamed : ∀ user actor, users.find? user = some actor → Table.refusesText actor.rootCause = false)
    (hnow : r.monitorId.isSome → r.statusId.isSome → m.store.Ticks t.stamp.now) :
    t.Agrees ttl (e.record r) m db fun _ m' db' =>
      ∃ locks', locks'.claims = [] ∧ Twins known users locks' {} m' db' := by
  unfold Engine.record
  cases hmonitor : r.monitorId with
  | none => exact Operation.agrees_throw ⟨locks, hidle, h⟩
  | some monitor =>
    cases hstatus : r.statusId with
    | none => exact Operation.agrees_throw ⟨locks, hidle, h⟩
    | some status =>
      apply Operation.Agrees.mono (h.locked hidle _)
      . intro _ m' db' h'
        exact ⟨locks.cycled, rfl, h'⟩
      . intro locks' leases' db' h'
        rw [Engine.recordLocked_eq]
        apply Operation.agrees_bind
        apply h'.rootCause hgiven hnamed
        intro cause hcause
        apply h'.succeed he ⟨hstart, hcause⟩ (hknown monitor hmonitor)
        exact hnow (by rw [hmonitor]; rfl) (by rw [hstatus]; rfl)

theorem delete (h : Twins known users locks {} m db) (hidle : locks.claims = []) (he : e.compound = .whole) (id : Uuid) :
    t.Agrees ttl (e.delete id) m db fun _ m' db' =>
      ∃ locks', locks'.claims = [] ∧ Twins known users locks' {} m' db' := by
  unfold Engine.delete
  apply Operation.agrees_bind
  apply h.get id
  . exact fun db' h' => ⟨locks, hidle, h'⟩
  . intro i db' _ h'
    apply Operation.Agrees.mono (h'.locked hidle _)
    . intro _ m'' db'' h''
      exact ⟨locks.cycled, rfl, h''⟩
    . intro locks' leases' db'' h''
      exact h''.deleteLocked he id

/--
Served alike, a request gets the same answer of twins, and leaves twins.
-/
theorem serve (h : Twins known users locks {} m db) (hidle : locks.claims = []) (he : e.compound = .whole)
    (hshared : t.Shared known)
    (hnamed : ∀ user actor, users.find? user = some actor → Table.refusesText actor.rootCause = false)
    (hnow : t.draws ≠ [] → m.store.Ticks t.stamp.now) :
    t.Agrees ttl (t.request.operation e) m db fun _ m' db' =>
      ∃ locks', locks'.claims = [] ∧ Twins known users locks' {} m' db' := by
  have hrest : ∀ db', Twins known users locks {} m db' →
      ∃ locks', locks'.claims = [] ∧ Twins known users locks' {} m db' := fun db' h' => ⟨locks, hidle, h'⟩
  cases hr : t.request with
  | record r =>
    rw [DatabaseTurn.Shared, hr] at hshared
    obtain ⟨hknown, hstart, hgiven⟩ := hshared
    apply h.record hidle he hknown hstart hgiven hnamed
    intro hmonitor hstatus
    apply hnow
    simp [Turn.draws, hr, hmonitor, hstatus]
  | delete id => exact h.delete hidle he id
  | get id =>
    apply h.get id
    . exact hrest
    . exact fun _ db' _ h' => hrest db' h'
  | current monitor => exact h.read (by rfl) (by trivial) hrest
  | timeline monitor => exact h.read (by rfl) (by trivial) hrest
  | audit monitor =>
    apply Operation.agrees_bind
    apply h.read (by rfl) (by trivial)
    intro db' h'
    exact Operation.agrees_pure (hrest db' h')
  | purge cutoff =>
    apply h.store
    . rw [DatabaseTurn.Shared, hr] at hshared
      exact hshared
    . exact Store.held_purge h.held cutoff
    . exact fun db' h' => ⟨locks, hidle, h'⟩

theorem start (known : List Uuid) (users : Directory) :
    Twins known users {} {} { directory := users }
      { monitors := some (known.map fun id => { id }), users := some users } where
  intervals := Table.mirrors_empty
  pointers := by
    intro M
    simp only [Database.current?, Option.bind_eq_bind, Option.bind_some]
    cases hfound : (known.map fun id => ({ id } : MonitorRow)).find? (·.id = M) with
    | none => rfl
    | some row =>
      obtain ⟨id, _, rfl⟩ := List.mem_map.1 (List.mem_of_find?_eq_some hfound)
      rfl
  monitors := ⟨_, rfl, by simp⟩
  directory := rfl
  userTable := rfl
  locks := rfl
  leases := rfl
  opened := rfl
  held := by simp [Store.intervals]

/--
Twins are left after a run that starts from twins without intervals, and the last creation time is a reading of the run.
-/
theorem after (he : e.compound = .whole) (ttl : Span) {turns : List DatabaseTurn} (h : SharedRun known turns)
    (hnamed : ∀ user actor, users.find? user = some actor → Table.refusesText actor.rootCause = false) :
    (∃ locks, locks.claims = [] ∧ Twins known users locks {}
      (Memory.after e { directory := users } (turns.map (·.toTurn)))
      (Database.after e ttl { monitors := some (known.map fun id => { id }), users := some users } turns)) ∧
    ∀ last ∈ (Memory.after e { directory := users } (turns.map (·.toTurn))).store.lastCreatedAt,
      ∃ u ∈ turns, u.draws ≠ [] ∧ last = u.stamp.now := by
  induction turns using List.reverseRecOn with
  | nil => exact ⟨⟨{}, rfl, start known users⟩, fun last hlast => by cases hlast⟩
  | append_singleton earlier t ih =>
    obtain ⟨⟨locks, hidle, htwins⟩, hlast⟩ := ih (h.of_prefix (List.prefix_append ..))
    have hserved : t.Agrees ttl (t.request.operation e) _ _ _ :=
      htwins.serve hidle he (h.shared t (by simp)) hnamed fun hdraws => h.ticks hdraws hlast
    rw [List.map_append, Memory.after_append, Database.after_append]
    refine ⟨hserved.2, ?_⟩
    intro last hmem
    rcases Memory.lastCreatedAt_serve he (htwins.locks ▸ hidle) t.toTurn with heq | ⟨hdraws, heq⟩
    . obtain ⟨u, hu, hdraws, hnow⟩ := hlast last (heq ▸ hmem)
      exact ⟨u, List.mem_append_left _ hu, hdraws, hnow⟩
    . refine ⟨t, by simp, hdraws, ?_⟩
      have hticks := h.ticks hdraws hlast
      rw [hticks.nextCreatedAt] at heq
      exact (Option.some.inj (heq.symm.trans hmem)).symm

theorem snapshot_eq (h : Twins known users locks {} m db) : db.snapshot = m.snapshot := by
  unfold Database.snapshot Memory.snapshot Store.intervals
  rw [h.intervals.rows]
  congr 1
  funext M
  exact h.pointers M

end Twins

/--
A user opens an interval of a monitor and another one that starts before it; the first one is deleted, and what has
ended is purged.
-/
def reopened : List DatabaseTurn :=
  let turn (serial : Nat) (request : Request) : DatabaseTurn :=
    { request
      stamp := { id := .ofSerial serial, now := .ofNanos (serial * 1000000) }
      lease := serial
      clock := fun _ => .ofNanos 500 }
  let record (start : Int) : Request :=
    .record {
      monitorId := some (.ofSerial 1)
      statusId := some (.ofSerial 2)
      startsAt := some (.ofNanos start)
      actor := some (.ofSerial 7) }
  [turn 11 (record 5000000), turn 12 (record 1000000), turn 13 (.delete (.ofSerial 11)),
    turn 14 (.purge (.ofNanos 90000000))]

end StatusTimeline
