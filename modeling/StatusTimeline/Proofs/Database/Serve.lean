import StatusTimeline.Database
import StatusTimeline.Proofs.Engine.Runs
import StatusTimeline.Proofs.Engine.Snapshot

/-!
This module contains runs of requests to an engine whose collaborators live in a database, served one after another with
nothing else at work there.
-/

namespace StatusTimeline

/--
A turn at an engine whose collaborators live in a database: the number of the lease that is tried for it, and what the
clock reads at the calls that insert nothing.
-/
structure DatabaseTurn extends Turn where
  lease : Nat
  clock : Call → Instant

namespace DatabaseTurn

def stampAt (t : DatabaseTurn) (c : StoreCall) : Stamp :=
  { t.stamp with now := if c.draws then t.stamp.now else t.clock (.store c) }

end DatabaseTurn

namespace Database

/--
Answer a call of a turn with nothing else at work. A lease that another turn holds stays held, so that waiting for it is
in vain.
-/
def reply (ttl : Span) (t : DatabaseTurn) : Answering Database := fun db c =>
  match c with
  | .store c => db.answer (t.stampAt c) c
  | .setPointer update => db.setPointer (t.clock (.setPointer update)) update
  | .resolve user => ((db.resolve user).map .ofSearch, db)
  | .lock key =>
    match db.tryLease (t.clock (.lock key)) key t.lease ttl with
    | (.ok true, db) => (.ok { key, hold := .lease t.lease }, db)
    | (.ok false, db) => (.error (.lockTimeout key .simulated), db)
    | (.error e, db) => (.error e, db)
  | .release token =>
    -- the table has no row for a token of another kind
    let lease := match token.hold with
      | .lease lease => lease
      | .claim _ _ => 0
    db.releaseLease token.key lease

def serve (e : Engine) (ttl : Span) (db : Database) (t : DatabaseTurn) :
    Except Error t.request.Answer × Database :=
  (t.request.operation e).execute (reply ttl t) db

def after (e : Engine) (ttl : Span) (db : Database) : List DatabaseTurn → Database
  | [] => db
  | t :: ts => (serve e ttl db t).2.after e ttl ts

def snapshot (db : Database) : Snapshot where
  intervals := db.intervals.plain.map (·.interval)
  pointers := db.current?

variable {db : Database} {rows : List MonitorRow}

theorem after_append {e : Engine} {ttl : Span} (ts ts' : List DatabaseTurn) :
    db.after e ttl (ts ++ ts') = (db.after e ttl ts).after e ttl ts' := by
  induction ts generalizing db with
  | nil => rfl
  | cons t ts ih => exact ih

/--
A pointer is set where the monitor has a row, and no other pointer changes.
-/
theorem setPointer_ok (hopen : db.closed = false) (hrows : db.monitors = some rows) (now : Instant)
    {update : PointerUpdate} (hknown : update.monitorId ∈ rows.map (·.id)) :
    ∃ rows', db.setPointer now update = (.ok (), { db with monitors := some rows' }) ∧
      rows'.map (·.id) = rows.map (·.id) ∧
      ∀ M, { db with monitors := some rows' }.current? M =
        if M = update.monitorId then some update.statusId else db.current? M := by
  obtain ⟨row₀, hrow₀, hid₀⟩ := List.mem_map.1 hknown
  have hany : rows.any (·.id = update.monitorId) = true := List.any_eq_true.2 ⟨row₀, hrow₀, by simpa using hid₀⟩
  let row : MonitorRow :=
    { id := update.monitorId, currentStatus := some update.statusId, updatedAt := some now.onDatabaseClock }
  let f : MonitorRow → MonitorRow := fun r => if r.id = update.monitorId then row else r
  have hid : ∀ r, (f r).id = r.id := by
    intro r
    by_cases heq : r.id = update.monitorId <;> simp [f, row, heq]
  refine ⟨rows.map f, ?_, ?_, ?_⟩
  . simp only [setPointer, guarded, hopen, Bool.false_eq_true, if_false, hrows, hany, if_true, f, row]
  . rw [List.map_map]
    exact List.map_congr_left fun r _ => hid r
  . intro M
    have hfind : (rows.map f).find? (·.id = M) = (rows.find? (·.id = M)).map f := by
      rw [List.find?_map]
      congr 2
      funext r
      simp only [Function.comp, hid]
    simp only [current?, hrows, Option.bind_eq_bind, Option.bind_some, hfind]
    by_cases hM : M = update.monitorId
    . cases hfound : rows.find? (·.id = M) with
      | none => simpa [hM, hid₀] using List.find?_eq_none.1 hfound row₀ hrow₀
      | some r =>
        have hr : r.id = M := by simpa using List.find?_some hfound
        simp [f, row, hr, hM]
    . cases hfound : rows.find? (·.id = M) with
      | none => simp [hM]
      | some r =>
        have hr : r.id = M := by simpa using List.find?_some hfound
        simp [f, hr, hM]

end Database

end StatusTimeline
