import StatusTimeline.Proofs.Database.Refused
import StatusTimeline.Proofs.Store.Compound

/-!
This module contains records with a directory whose intervals go to a database. What its users are called can be a text
that a database cannot hold, and then the record fails that would have been fine without a directory.
-/

namespace StatusTimeline

namespace Table

def bareRow (id : Uuid) (r : TableRow) : TableRow := { r with interval := r.interval.bare id }

def bare (id : Uuid) (t : Table) : Table := { t with rows := t.rows.map (bareRow id) }

variable (t : Table) (id : Uuid)

theorem plain_bare : (t.bare id).plain = t.plain.map (Row.bare id) := by
  unfold plain bare
  simp only [List.map_map]
  rfl

theorem contains_bare (i : Uuid) : (t.bare id).contains i = t.contains i := by
  unfold contains
  rw [plain_bare, Row.find?_bare, Option.isSome_map]

theorem setEnd_bare (now : Instant) (i : Uuid) (e : Option Instant) :
    (t.bare id).setEnd now i e = (t.setEnd now i e).bare id := by
  unfold setEnd bare
  simp only [List.map_map]
  congr 2
  funext r
  have hid : (bareRow id r).interval.id = r.interval.id := Interval.bare_id id r.interval
  simp only [Function.comp_apply, hid]
  split
  . have hend := Row.withEnd_bare id (e.map Instant.cutToMicros) r.toRow
    show ({ toRow := (Row.bare id r.toRow).withEnd _, updatedAt := _ } : TableRow) = _
    rw [hend]
    rfl
  . rfl

theorem erase_bare (i : Uuid) : (t.bare id).erase i = (t.erase i).bare id := by
  unfold erase bare
  simp only [List.filter_map, Function.comp_def]
  have hid : ∀ r, (bareRow id r).interval.id = r.interval.id := fun r => Interval.bare_id id r.interval
  simp only [hid]

theorem insert_bare (stamp : Stamp) {new : NewInterval} (hnew : new.rootCause.any refusesText = false) :
    (t.bare stamp.id).insert stamp new.bare =
      ((t.insert stamp new).1.map (Interval.bare stamp.id), (t.insert stamp new).2.bare stamp.id) := by
  have hinterval : (cutNew new.bare).materialise stamp.id stamp.now.onDatabaseClock =
      ((cutNew new).materialise stamp.id stamp.now.onDatabaseClock).bare stamp.id := (if_pos rfl).symm
  have hbare : new.bare.rootCause.any refusesText = false := rfl
  unfold insert
  rw [hnew, hbare]
  simp only [Bool.false_eq_true, if_false]
  rw [hinterval]
  unfold bare
  simp only [List.map_append]
  rfl

theorem append_bare (stamp : Stamp) {new : NewInterval} (hnew : new.rootCause.any refusesText = false)
    (close : Option Uuid) :
    (t.bare stamp.id).append stamp new.bare close =
      ((t.append stamp new close).1.map (Interval.bare stamp.id), (t.append stamp new close).2.bare stamp.id) := by
  unfold append
  rw [t.insert_bare stamp hnew]
  cases t.insert stamp new with
  | mk created inserted =>
    cases created with
    | error err => rfl
    | ok created =>
      cases close with
      | none => rfl
      | some prior =>
        simp only [Except.map]
        rw [contains_bare]
        cases t.contains prior with
        | false => rfl
        | true =>
          simp only [if_true]
          rw [setEnd_bare, Interval.bare_createdAt]

theorem intervals_insert (stamp : Stamp) (new : NewInterval) :
    (∃ err, t.insert stamp new = (.error err, t)) ∨
      ∃ created : Interval, (t.insert stamp new).1 = .ok created ∧
        created.Notes stamp.id new.rootCause new.createdBy ∧
        (t.insert stamp new).2.intervals = t.intervals ++ [created] := by
  unfold insert
  split
  . exact .inl ⟨_, rfl⟩
  . refine .inr ⟨_, rfl, ⟨rfl, rfl, rfl⟩, ?_⟩
    simp only [intervals, Store.intervals, asStore, plain, List.map_append, List.map_cons, List.map_nil]

theorem intervals_append (stamp : Stamp) (new : NewInterval) (close : Option Uuid) :
    (∃ err, t.append stamp new close = (.error err, t)) ∨
      ∃ created : Interval, (t.append stamp new close).1 = .ok created ∧
        created.Notes stamp.id new.rootCause new.createdBy ∧
        ((t.append stamp new close).2.intervals = t.intervals ++ [created] ∨
          ∃ prior e, (t.append stamp new close).2.intervals =
            (t.intervals ++ [created]).map (Interval.endAt prior e)) := by
  unfold append
  rcases t.intervals_insert stamp new with ⟨err, hrefused⟩ | ⟨created, hcreated, hnotes, hintervals⟩
  . rw [hrefused]
    exact .inl ⟨err, rfl⟩
  . cases hinsert : t.insert stamp new with
    | mk outcome inserted =>
      rw [hinsert] at hcreated hintervals
      dsimp only at hcreated hintervals
      rw [hcreated]
      cases close with
      | none => exact .inr ⟨created, rfl, hnotes, .inl hintervals⟩
      | some prior =>
        dsimp only
        split
        . refine .inr ⟨created, rfl, hnotes, .inr ⟨prior, (some created.createdAt).map Instant.cutToMicros, ?_⟩⟩
          rw [intervals_setEnd, hintervals]
        . exact .inl ⟨_, rfl⟩

/--
Of the interval that is drawn nothing gets into the table but what is given.
-/
theorem noted_answer {stamp : Stamp} {cause : Option String} {creator : Option Uuid} {c : StoreCall}
    (hc : (Call.store c).Opens cause creator) (h : Interval.Noted stamp.id cause creator t.intervals) :
    Interval.Noted stamp.id cause creator (t.answer stamp c).2.intervals := by
  cases c with
  | insert new =>
    obtain ⟨rfl, rfl⟩ := hc
    show Interval.Noted _ _ _ (t.insert stamp new).2.intervals
    rcases t.intervals_insert stamp new with ⟨err, hrefused⟩ | ⟨created, _, hnotes, hintervals⟩
    . rw [hrefused]
      exact h
    . rw [hintervals]
      exact h.concat hnotes
  | append new close =>
    obtain ⟨rfl, rfl⟩ := hc
    show Interval.Noted _ _ _ (t.append stamp new close).2.intervals
    rcases t.intervals_append stamp new close with
      ⟨err, hrefused⟩ | ⟨created, _, hnotes, hintervals | ⟨prior, e, hintervals⟩⟩
    . rw [hrefused]
      exact h
    . rw [hintervals]
      exact h.concat hnotes
    . rw [hintervals]
      exact (h.concat hnotes).map_endAt prior e
  | updateEndsAt i e =>
    unfold answer
    dsimp only
    split
    . rw [intervals_setEnd]
      exact h.map_endAt i _
    . exact h
  | delete i =>
    unfold answer
    dsimp only
    split
    . rw [intervals_erase]
      exact h.filter _
    . exact h
  | findLatest monitor => exact h
  | _ => cases hc

theorem notes_insert (stamp : Stamp) (new : NewInterval) :
    Notes intervals stamp.id new (t.insert stamp new).1 (t.insert stamp new).2 := by
  intro i hi
  rcases t.intervals_insert stamp new with ⟨err, hrefused⟩ | ⟨created, hcreated, hnotes, hintervals⟩
  . rw [hrefused] at hi
    cases hi
  . cases hi.symm.trans hcreated
    rw [hintervals]
    exact ⟨hnotes, i, List.mem_append_right _ (List.mem_singleton_self _), hnotes.id⟩

theorem notes_append (stamp : Stamp) (new : NewInterval) (close : Option Uuid) :
    Notes intervals stamp.id new (t.append stamp new close).1 (t.append stamp new close).2 := by
  intro i hi
  rcases t.intervals_append stamp new close with ⟨err, hrefused⟩ | ⟨created, hcreated, hnotes, hintervals⟩
  . rw [hrefused] at hi
    cases hi
  . cases hi.symm.trans hcreated
    have hlast : ∃ j ∈ t.intervals ++ [i], j.id = stamp.id :=
      ⟨i, List.mem_append_right _ (List.mem_singleton_self _), hnotes.id⟩
    refine ⟨hnotes, ?_⟩
    rcases hintervals with hintervals | ⟨prior, e, hintervals⟩
    . rw [hintervals]
      exact hlast
    . rw [hintervals]
      exact Interval.holds_endAt hlast prior e

end Table

namespace Database

def bare (id : Uuid) (db : Database) : Database := { db with intervals := db.intervals.bare id }

variable (ttl : Span) (t : DatabaseTurn)

theorem withLeases_bare (id : Uuid) (db : Database) (key : String) (act : LeaseTable → Bool × LeaseTable) :
    (db.bare id).withLeases key act = ((db.withLeases key act).1, (db.withLeases key act).2.bare id) := by
  unfold withLeases guarded bare
  dsimp only
  split
  . rfl
  . split <;> rfl

theorem answer_bare (id : Uuid) (db : Database) (stamp : Stamp) (c c' : StoreCall)
    {f : c.Answer → c'.Answer}
    (h : (db.intervals.bare id).answer stamp c' =
      ((db.intervals.answer stamp c).1.map f, (db.intervals.answer stamp c).2.bare id)) :
    (db.bare id).answer stamp c' = ((db.answer stamp c).1.map f, (db.answer stamp c).2.bare id) := by
  unfold answer guarded bare
  dsimp only
  split
  . rfl
  . rw [h]

theorem heedless :
    Heedless (reply ttl t) (bare t.stamp.id) t.stamp.id fun cause => cause.any Table.refusesText = false where
  causeless db c hc := by
    cases c with
    | store c =>
      have hanswer : ((db.intervals.bare t.stamp.id).answer (t.stampAt c) c) =
          ((db.intervals.answer (t.stampAt c) c).1, (db.intervals.answer (t.stampAt c) c).2.bare t.stamp.id) := by
        cases c with
        | updateEndsAt i e =>
          unfold Table.answer
          dsimp only
          rw [Table.contains_bare, Table.setEnd_bare]
          split <;> rfl
        | delete i =>
          unfold Table.answer
          dsimp only
          rw [Table.contains_bare, Table.erase_bare]
          split <;> rfl
        | _ => cases hc
      unfold reply answer guarded bare
      dsimp only
      split
      . rfl
      . rw [hanswer]
    | setPointer update =>
      unfold reply setPointer guarded bare
      dsimp only
      split
      . rfl
      . split
        . rfl
        . split <;> rfl
    | resolve user => cases hc
    | lock key =>
      unfold reply tryLease
      dsimp only
      rw [withLeases_bare]
      cases db.withLeases key _ with
      | mk held db => cases held with
        | error err => rfl
        | ok held => cases held <;> rfl
    | release token =>
      unfold reply releaseLease
      dsimp only
      rw [withLeases_bare]
      cases db.withLeases token.key _ with
      | mk held db => cases held with
        | error err => rfl
        | ok held => cases held <;> rfl
  findLatest db monitor := by
    apply answer_bare t.stamp.id db (t.stampAt (.findLatest monitor)) (.findLatest monitor) (.findLatest monitor)
    unfold Table.answer
    dsimp only
    rw [Table.plain_bare, Row.latest?_bare]
    rfl
  insert db new hnew :=
    answer_bare t.stamp.id db (t.stampAt (.insert new)) (.insert new) (.insert new.bare)
      (db.intervals.insert_bare (t.stampAt (.insert new)) hnew)
  append db new close hnew :=
    answer_bare t.stamp.id db (t.stampAt (.append new close)) (.append new close) (.append new.bare close)
      (db.intervals.append_bare (t.stampAt (.append new close)) hnew close)

/--
Calls other than to the store leave the intervals as they are.
-/
theorem intervals_reply (db : Database) {c : Call} (hc : ∀ s, c ≠ .store s) :
    (reply ttl t db c).2.intervals = db.intervals := by
  cases c with
  | store s => exact absurd rfl (hc s)
  | setPointer update =>
    unfold reply setPointer guarded
    dsimp only
    split
    . rfl
    . split
      . rfl
      . split <;> rfl
  | resolve user => rfl
  | lock key =>
    obtain ⟨leases, hleases⟩ := lock_snd ttl t db key
    rw [hleases]
  | release token =>
    obtain ⟨leases, hleases⟩ := release_snd ttl t db token
    rw [hleases]

/--
A call to the store makes of the intervals what the table makes of them, or nothing while the pool is closed.
-/
theorem intervals_answer (db : Database) (stamp : Stamp) (c : StoreCall) :
    (∃ err, db.answer stamp c = (.error err, db)) ∨
      ((db.answer stamp c).1 = (db.intervals.answer stamp c).1 ∧
        (db.answer stamp c).2.intervals = (db.intervals.answer stamp c).2) := by
  unfold answer guarded
  split
  . exact .inl ⟨_, rfl⟩
  . exact .inr ⟨rfl, rfl⟩

theorem of_table {db : Database} {stamp : Stamp} {c : StoreCall} {Q : Except Error c.Answer → Table → Prop}
    (hrefused : ∀ err, Q (.error err) db.intervals)
    (hanswer : Q (db.intervals.answer stamp c).1 (db.intervals.answer stamp c).2) :
    Q (db.answer stamp c).1 (db.answer stamp c).2.intervals := by
  rcases db.intervals_answer stamp c with ⟨err, herr⟩ | ⟨houtcome, hintervals⟩
  . rw [herr]
    exact hrefused err
  . rw [houtcome, hintervals]
    exact hanswer

theorem faithful : Faithful (reply ttl t) (fun db => db.intervals.intervals) t.stamp.id where
  stored cause creator db c hc hdb := by
    cases c with
    | store c =>
      apply of_table (Q := fun _ intervals => Interval.Noted t.stamp.id cause creator intervals.intervals)
      . exact fun _ => hdb
      . exact db.intervals.noted_answer hc hdb
    | _ =>
      rw [intervals_reply ttl t db (by nofun)]
      exact hdb
  insert db new := by
    apply of_table (c := .insert new) (Q := Notes Table.intervals t.stamp.id new)
    . exact fun _ => nofun
    . exact db.intervals.notes_insert (t.stampAt (.insert new)) new
  append db new close := by
    apply of_table (c := .append new close) (Q := Notes Table.intervals t.stamp.id new)
    . exact fun _ => nofun
    . exact db.intervals.notes_append (t.stampAt (.append new close)) new close
  kept db c hc hdelete hdb := by
    cases c with
    | store c =>
      apply of_table (Q := fun _ intervals => ∃ i ∈ intervals.intervals, i.id = t.stamp.id)
      . exact fun _ => hdb
      cases c with
      | updateEndsAt i e =>
        unfold Table.answer
        dsimp only
        split
        . rw [Table.intervals_setEnd]
          exact Interval.holds_endAt hdb i _
        . exact hdb
      | delete i => exact absurd rfl (hdelete i)
      | _ => cases hc
    | _ =>
      rw [intervals_reply ttl t db (by nofun)]
      exact hdb

end Database

namespace Advice

/--
A record that comes to nothing. It ends as one does whose new interval is refused, and nothing is stored or pointed to.
-/
structure Unrecorded (db : Database) (ended refused : Except Error StatusChange × Database × Nat) : Prop where
  same : ended = refused
  failed : ∃ err, ended.1 = .error err
  intervals : ended.2.1.intervals = db.intervals
  monitors : ended.2.1.monitors = db.monitors

theorem unrecorded (compound : Compound) (r : ChangeRequest) (d d' : Advice) (faults : Nat → Option Error) (db : Database)
    (ttl : Span) (t : DatabaseTurn) (hd : ¬ Table.Storable (d.rootCause r)) :
    Unrecorded db (d.record compound ((Database.reply ttl t).faulty faults) r (db, 0))
      (d'.record compound ((Database.reply ttl t).refusing.faulty faults) r (db, 0)) := by
  rw [d.execute_record, d'.execute_record]
  have hmonitor : (d'.settled r).monitorId = (d.settled r).monitorId := rfl
  have hstatus : (d'.settled r).statusId = (d.settled r).statusId := rfl
  obtain ⟨err, s, hended, hrefused, hintervals, hmonitors⟩ :=
    Database.balk_record ttl t compound hmonitor hstatus (Table.not_storable_iff.1 hd) (db, 0)
  rw [hended, hrefused]
  exact ⟨rfl, ⟨err, rfl⟩, hintervals, hmonitors⟩

/--
Whatever the directory does, a record differs by the root cause of the new interval at most: it is answered alike and
leaves the same intervals, pointers and locks, from every state and whichever of the other calls fail. The root cause is
the one that is given, else the text of the user that is found, and the creator is stored as it is given. In a database
that is so unless it can hold only one of the two root causes. With one that it cannot hold the record fails, just as if
the new interval had been refused with the other directory, and nothing is stored.
-/
theorem record_annotates (compound : Compound) (r : ChangeRequest) (d d' : Advice) (faults : Nat → Option Error) :
    d.Causes r (d.rootCause r) ∧
    (∀ (m : Memory) (stamp : Stamp), m.store.contains stamp.id = false →
      Annotates (Prod.map (Memory.bare stamp.id) fun n => n) (fun s => s.1.store.intervals) stamp.id r d
        (d.record compound (Answering.faulty (fun m c => m.answer stamp c) faults) r (m, 0))
        (d'.record compound (Answering.faulty (fun m c => m.answer stamp c) faults) r (m, 0))) ∧
    ∀ (db : Database) (ttl : Span) (t : DatabaseTurn), db.intervals.contains t.stamp.id = false →
      ((Table.Storable (d.rootCause r) ↔ Table.Storable (d'.rootCause r)) →
        Annotates (Prod.map (Database.bare t.stamp.id) fun n => n) (fun s => s.1.intervals.intervals) t.stamp.id r d
          (d.record compound ((Database.reply ttl t).faulty faults) r (db, 0))
          (d'.record compound ((Database.reply ttl t).faulty faults) r (db, 0))) ∧
      (¬ Table.Storable (d.rootCause r) →
        Unrecorded db (d.record compound ((Database.reply ttl t).faulty faults) r (db, 0))
          (d'.record compound ((Database.reply ttl t).refusing.faulty faults) r (db, 0))) := by
  have hfresh : ∀ (s : Store) (id : Uuid), s.contains id = false → ∀ i ∈ s.intervals, i.id ≠ id := by
    intro s id hs i hi
    obtain ⟨row, hrow, rfl⟩ := List.mem_map.1 hi
    exact Store.contains_eq_false.1 hs row hrow
  refine ⟨d.causes_rootCause r, ?memory, ?database⟩
  case memory =>
    intro m stamp hm
    apply ((Memory.heedless stamp).faulty faults).annotates ((Memory.faithful stamp).faulty faults)
    . exact hfresh m.store stamp.id hm
    . exact trivial
    . exact trivial
  case database =>
    intro db ttl t hdb
    have hids : ∀ i ∈ db.intervals.intervals, i.id ≠ t.stamp.id := by
      apply hfresh db.intervals.asStore
      rw [Table.contains_asStore]
      exact hdb
    have hfaithful := (Database.faithful ttl t).faulty faults
    refine ⟨?_, d.unrecorded compound r d' faults db ttl t⟩
    intro hboth
    by_cases hd : Table.Storable (d.rootCause r)
    . exact ((Database.heedless ttl t).faulty faults).annotates hfaithful compound r d d' hids
        (Table.storable_iff.1 hd) (Table.storable_iff.1 (hboth.1 hd))
    . -- Both are refused, so that both end as what is refused with the second directory does.
      have hsame := (d.unrecorded compound r d' faults db ttl t hd).same.trans
        (d'.unrecorded compound r d' faults db ttl t (mt hboth.2 hd)).same.symm
      apply hfaithful.annotates compound r d d' hids
      . rw [hsame]
      . rw [hsame]

/--
The status pointer cannot be set, as the call of number 3 fails. A user is found in one run, and in the other one the
search takes too long. When there is a NUL character in the name of the user, nothing gets into the database.
-/
theorem record_annotates_found :
    let ada : Actor := { name := "Ada", email := "ada@example.org" }
    let found : Advice := some fun _ => .ok (.found ada)
    let slow : Advice := some fun _ => .ok .timedOut
    let garbled : Advice := some fun _ => .ok (.found { ada with name := "Ada\x00" })
    let r : ChangeRequest :=
      { monitorId := some (.ofSerial 1), statusId := some (.ofSerial 2), actor := some (.ofSerial 7) }
    let faults : Nat → Option Error := fun n => if n = 3 then some (.database .poolTimedOut) else none
    let m : Memory := { store := Compound.stored }
    let db : Database := { intervals := Compound.storedTable }
    let t : DatabaseTurn :=
      { request := .record r, stamp := Compound.clocked, lease := 1, clock := fun _ => Compound.clocked.now }
    let reply := Database.reply (.ofMillis 30000) t
    let ended := found.record .whole (Answering.faulty (fun m c => m.answer Compound.clocked c) faults) r (m, 0)
    let ended' := slow.record .whole (Answering.faulty (fun m c => m.answer Compound.clocked c) faults) r (m, 0)
    found.Causes r (some "Monitor status created by Ada (ada@example.org)") ∧
      ended.1 = .error (.database .poolTimedOut) ∧
      ended.2.1.store.intervals.map (·.rootCause) =
        [none, some "Monitor status created by Ada (ada@example.org)"] ∧
      ended'.2.1.store.intervals.map (·.rootCause) = [none, none] ∧
      Annotates (Prod.map (Memory.bare Compound.clocked.id) fun n => n) (fun s => s.1.store.intervals)
        Compound.clocked.id r found ended ended' ∧
      Annotates (Prod.map (Database.bare t.stamp.id) fun n => n) (fun s => s.1.intervals.intervals) t.stamp.id r found
        (found.record .whole (reply.faulty faults) r (db, 0)) (slow.record .whole (reply.faulty faults) r (db, 0)) ∧
      Unrecorded db (garbled.record .whole (reply.faulty faults) r (db, 0))
        (slow.record .whole (reply.refusing.faulty faults) r (db, 0)) := by
  intro ada found slow garbled r faults m db t reply ended ended'
  obtain ⟨hcauses, hmemory, hdatabase⟩ := record_annotates .whole r found slow faults
  obtain ⟨_, _, hgarbled⟩ := record_annotates .whole r garbled slow faults
  have hfound : Table.Storable (found.rootCause r) := Table.storable_iff.2 (by decide +kernel)
  have hslow : Table.Storable (slow.rootCause r) := Table.storable_iff.2 (by decide +kernel)
  have hnul : ¬ Table.Storable (garbled.rootCause r) := Table.not_storable_iff.2 (by decide +kernel)
  refine ⟨hcauses, by decide +kernel, by decide +kernel, by decide +kernel, hmemory m Compound.clocked (by decide), ?_,
    ?_⟩
  . exact (hdatabase db _ t (by decide)).1 ⟨fun _ => hslow, fun _ => hfound⟩
  . exact (hgarbled db _ t (by decide)).2 hnul

/--
A user whose name has a NUL character keeps the database from storing an interval that it stores without a directory, and
without a directory it does not store every root cause that is given.
-/
theorem record_annotates_garbled :
    let garbled : Advice := some fun _ => .ok (.found { name := "Ada\x00", email := "ada@example.org" })
    let nobody : Advice := none
    let r : ChangeRequest :=
      { monitorId := some (.ofSerial 1), statusId := some (.ofSerial 2), actor := some (.ofSerial 7) }
    let given : ChangeRequest := { r with rootCause := some "a\x00b" }
    let db : Database := { intervals := Compound.storedTable, monitors := some [{ id := .ofSerial 1 }] }
    let t : DatabaseTurn :=
      { request := .record r, stamp := Compound.clocked, lease := 1, clock := fun _ => Compound.clocked.now }
    let answer := (Database.reply (.ofMillis 30000) t).faulty fun _ => none
    (garbled.record .whole answer r (db, 0)).1 = .error (.database .nulCharacter) ∧
      (nobody.record .whole answer r (db, 0)).1.toBool = true ∧
      (garbled.record .whole answer r (db, 0)).2.1.intervals.intervals.length = 1 ∧
      (nobody.record .whole answer r (db, 0)).2.1.intervals.intervals.length = 2 ∧
      ¬ Annotates (Prod.map (Database.bare t.stamp.id) fun n => n) (fun s => s.1.intervals.intervals) t.stamp.id r
        garbled (garbled.record .whole answer r (db, 0)) (nobody.record .whole answer r (db, 0)) ∧
      (nobody.record .whole answer given (db, 0)).1 = .error (.database .nulCharacter) := by
  intro garbled nobody r given db t answer
  have hfails : (garbled.record .whole answer r (db, 0)).1 = .error (.database .nulCharacter) := by decide +kernel
  have hsucceeds : (nobody.record .whole answer r (db, 0)).1.toBool = true := by decide +kernel
  refine ⟨hfails, hsucceeds, by decide +kernel, by decide +kernel, ?_, by decide +kernel⟩
  intro hannotates
  have houtcome := hannotates.outcome
  rw [hfails] at houtcome
  cases hended : (nobody.record .whole answer r (db, 0)).1 with
  | error err =>
    rw [hended] at hsucceeds
    cases hsucceeds
  | ok change =>
    rw [hended] at houtcome
    cases houtcome

end Advice

end StatusTimeline
