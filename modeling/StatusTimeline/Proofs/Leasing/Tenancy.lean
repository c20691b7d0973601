import StatusTimeline.Database
import StatusTimeline.Proofs.Leasing.Owner

/-!
This module contains the table of leases under any sequence of lock calls, renewals, releases and dropped tokens, of any
number of providers, while the clock goes where it will. Once a key has passed to another lease, the one before has
nothing to say about it any more.
-/

namespace StatusTimeline

namespace LeaseTable

def keys (t : LeaseTable) : List String := t.rows.map (·.key)

variable {t : LeaseTable} {key : String} {lease : Nat} {now : Instant} {ttl : Span}

section Keys

theorem keys_map {f : LeaseRow → LeaseRow} (hkey : ∀ r, (f r).key = r.key) :
    keys { rows := t.rows.map f } = t.keys := by
  unfold keys
  rw [List.map_map]
  apply List.map_congr_left
  intro r _
  exact hkey r

theorem keys_tryAcquire (h : t.keys.Nodup) : (t.tryAcquire key lease now ttl).2.keys.Nodup := by
  unfold tryAcquire
  split
  . next hrow =>
    unfold keys
    rw [List.map_append, List.nodup_append]
    refine ⟨h, by simp, ?_⟩
    intro k hk k' hk'
    obtain ⟨r, hr, rfl⟩ := List.mem_map.1 hk
    rw [List.mem_singleton.1 hk']
    exact row?_eq_none.1 hrow r hr
  . split
    . rw [keys_map]
      . exact h
      . exact key_replace rfl
    . exact h

theorem keys_renew : (t.renew key lease now ttl).2.keys = t.keys := by
  apply keys_map
  intro r
  split <;> rfl

theorem keys_release : List.Sublist (t.release key lease).2.keys t.keys := List.filter_sublist.map _

end Keys

section Rows

variable {r : LeaseRow}

/--
The rows after an attempt that has succeeded: those of other keys, and that of the new lease.
-/
theorem mem_tryAcquire (h : (t.tryAcquire key lease now ttl).1 = true)
    (hr : r ∈ (t.tryAcquire key lease now ttl).2.rows) :
    r ∈ t.rows ∧ r.key ≠ key ∨ r.key = key ∧ r.lease = lease := by
  unfold tryAcquire at h hr
  split at hr
  . next hrow =>
    rcases List.mem_append.1 hr with hr | hr
    . exact .inl ⟨hr, row?_eq_none.1 hrow r hr⟩
    . rw [List.mem_singleton.1 hr]
      exact .inr ⟨rfl, rfl⟩
  . split at hr
    . obtain ⟨r₀, hr₀, rfl⟩ := List.mem_map.1 hr
      split
      . exact .inr ⟨rfl, rfl⟩
      . next hne => exact .inl ⟨hr₀, hne⟩
    . next current hrow hexpired =>
      simp [hrow, hexpired] at h

theorem tryAcquire_false (h : (t.tryAcquire key lease now ttl).1 = false) : (t.tryAcquire key lease now ttl).2 = t := by
  unfold tryAcquire at h ⊢
  split at h
  . cases h
  . split at h
    . cases h
    . next current hrow hexpired => simp [hexpired]

theorem mem_renew (hr : r ∈ (t.renew key lease now ttl).2.rows) :
    ∃ r₀ ∈ t.rows, r₀.key = r.key ∧ r₀.lease = r.lease := by
  obtain ⟨r₀, hr₀, rfl⟩ := List.mem_map.1 hr
  refine ⟨r₀, hr₀, ?_⟩
  split <;> exact ⟨rfl, rfl⟩

theorem isOwn_eq_false :
    t.isOwn key lease = false ↔ ∀ r ∈ t.rows, (decide (r.key = key) && decide (r.lease = lease)) = false := by
  rw [isOwn, List.any_eq_false]
  simp only [Bool.not_eq_true]

theorem renew_of_not_own (h : t.isOwn key lease = false) : t.renew key lease now ttl = (false, t) := by
  have hrows : t.rows.map (fun r => if (decide (r.key = key) && decide (r.lease = lease)) = true then
      { r with expiresAt := now.afterOnDatabaseClock ttl } else r) = t.rows := by
    apply (List.map_congr_left _).trans (List.map_id' _)
    intro r hr
    rw [isOwn_eq_false.1 h r hr]
    rfl
  unfold renew
  rw [h, hrows]

theorem release_of_not_own (h : t.isOwn key lease = false) : t.release key lease = (false, t) := by
  unfold release
  rw [h, List.filter_eq_self.2]
  intro r hr
  rw [isOwn_eq_false.1 h r hr]
  rfl

end Rows

end LeaseTable

theorem Database.withLeases_of_open {db : Database} (h : db.closed = false) {key : String}
    (hkey : Table.refusesText key = false) (act : LeaseTable → Bool × LeaseTable) :
    db.withLeases key act = (.ok (act db.leases).1, { db with leases := (act db.leases).2 }) := by
  simp [withLeases, guarded, h, hkey]

theorem Database.withLeases_of_refused {db : Database} (h : db.closed = false) {key : String}
    (hkey : Table.refusesText key = true) (act : LeaseTable → Bool × LeaseTable) :
    db.withLeases key act = (.error (.database .nulCharacter), db) := by
  simp [withLeases, guarded, h, hkey]

theorem Database.releaseLease_of_open {db : Database} (h : db.closed = false) {key : String}
    (hkey : Table.refusesText key = false) (lease : Nat) :
    db.releaseLease key lease =
      (if (db.leases.release key lease).1 then .ok () else .error (.lock (.leaseLost key)),
        { db with leases := (db.leases.release key lease).2 }) := by
  rw [releaseLease, withLeases_of_open h hkey]
  cases (db.leases.release key lease).1 <;> rfl

namespace Tenancy

/--
A call for a lock. The lease that it asks for has its number.
-/
structure Tenant where
  key : String
  ttl : Span
deriving DecidableEq, Repr

/--
The database, the calls for locks in their order, and those of them that were granted, latest first.
-/
structure State where
  db : Database := {}
  tenants : List Tenant := []
  grants : List Nat := []

inductive Event where
  | call (key : String) (ttl : Span)
  /-- One of the attempts that a call makes until one of them is granted. -/
  | attempt (i : Nat) (now : Instant)
  /-- A renewal, which may still be on its way when its token is released or dropped. -/
  | renew (i : Nat) (now : Instant)
  | release (i : Nat)
  /-- A token is dropped. Its lease stays until it has run out. -/
  | drop (i : Nat)
deriving DecidableEq, Repr

inductive Reply where
  | nothing
  | leased (answer : Except Error Bool)
  | released (answer : Except Error Unit)

namespace State

def key? (s : State) (i : Nat) : Option String := s.tenants[i]?.map (·.key)

theorem key?_of_getElem? {s : State} {i : Nat} {c : Tenant} (h : s.tenants[i]? = some c) : s.key? i = some c.key :=
  congrArg _ h

/--
What a granted call does with its lease.
-/
def granted (s : State) (i : Nat) (act : Tenant → Reply × Database) : Option (Reply × State) :=
  match s.tenants[i]? with
  | some c => if i ∈ s.grants then let (reply, db) := act c; some (reply, { s with db }) else none
  | none => none

def next (s : State) : Event → Option (Reply × State)
  | .call key ttl => some (.nothing, { s with tenants := s.tenants ++ [{ key, ttl }] })
  | .attempt i now =>
    match s.tenants[i]? with
    | some c =>
      if i ∈ s.grants then none
      else
        match s.db.tryLease now c.key i c.ttl with
        | (.ok true, db) => some (.leased (.ok true), { s with db, grants := i :: s.grants })
        | (answer, db) => some (.leased answer, { s with db })
    | none => none
  | .renew i now => s.granted i fun c =>
    let (answer, db) := s.db.renewLease now c.key i c.ttl
    (.leased answer, db)
  | .release i => s.granted i fun c =>
    let (answer, db) := s.db.releaseLease c.key i
    (.released answer, db)
  | .drop i => s.granted i fun _ => (.nothing, s.db)

/--
Whoever attempts has called and has no lease.
-/
theorem of_attempt {s : State} {i : Nat} {now : Instant} {r : Reply × State}
    (hnext : s.next (.attempt i now) = some r) : ∃ c, s.tenants[i]? = some c ∧ i ∉ s.grants := by
  simp only [next] at hnext
  split at hnext
  case h_2 => cases hnext
  next c hc =>
  split at hnext
  . cases hnext
  . next hi => exact ⟨c, hc, hi⟩

def play (s : State) : List Event → Option State
  | [] => some s
  | ev :: evs => (s.next ev).bind fun (_, s) => s.play evs

/--
A lease of a key was granted, and another lease of that key after it.
-/
def Replaced (s : State) (i : Nat) (key : String) : Prop :=
  s.key? i = some key ∧ ∃ j, s.key? j = some key ∧ [j, i].Sublist s.grants

end State

/--
The key that an event is about.
-/
def Event.key? (s : State) : Event → Option String
  | call _ _ => none
  | attempt i _ => s.key? i
  | renew i _ => s.key? i
  | release i => s.key? i
  | drop _ => none

/--
What may come of an event: a lease only where there was none that had not run out, nothing for other keys, and for a
lease that was replaced nothing but that it is lost.
-/
structure Safe (s : State) (ev : Event) (reply : Reply) (s' : State) : Prop where
  acquired : ∀ i now, ev = .attempt i now → reply = .leased (.ok true) → ∃ key, s.key? i = some key ∧
    ∀ row, s.db.leases.row? key = some row → row.expiresAt ≤ now.onDatabaseClock
  apart : ∀ key, ev.key? s ≠ some key → s'.db.leases.row? key = s.db.leases.row? key
  renewed : ∀ i key now, ev = .renew i now → s.Replaced i key → reply = .leased (.ok false) ∧ s' = s
  released : ∀ i key, ev = .release i → s.Replaced i key →
    reply = .released (.error (.lock (.leaseLost key))) ∧ s' = s

/--
The calls that were granted a lease of a key, latest first.
-/
def State.grantsOf (s : State) (key : String) : List Nat := s.grants.filter (s.key? · = some key)

/--
What always holds: the rows of the table are the latest leases of their keys.
-/
structure Sound (s : State) : Prop where
  isOpen : s.db.closed = false
  keys : s.db.leases.keys.Nodup
  latest : ∀ r ∈ s.db.leases.rows, (s.grantsOf r.key).head? = some r.lease
  once : s.grants.Nodup
  known : ∀ i ∈ s.grants, ∃ key, s.key? i = some key ∧ Table.refusesText key = false

variable {s s' : State} {ev : Event} {reply : Reply} {i : Nat}

namespace Sound

theorem start {db : Database} (hopen : db.closed = false) (hempty : db.leases = {}) : Sound { db } := by
  constructor <;> simp [hopen, hempty, LeaseTable.keys]

/--
A lease that was replaced is not in the table.
-/
theorem not_own (h : Sound s) {key : String} (hr : s.Replaced i key) : s.db.leases.isOwn key i = false := by
  obtain ⟨hi, j, hj, hji⟩ := hr
  rw [LeaseTable.isOwn, List.any_eq_false]
  intro r hrow hown
  rw [Bool.and_eq_true, decide_eq_true_eq, decide_eq_true_eq] at hown
  obtain ⟨rfl, rfl⟩ := hown
  have hsub : [j, r.lease].Sublist (s.grantsOf r.key) := by
    have hfilter : [j, r.lease].filter (s.key? · = some r.key) = [j, r.lease] := by simp [hi, hj]
    rw [← hfilter]
    exact hji.filter _
  -- the lease in the table is the latest one of its key, and it comes only once
  obtain ⟨rest, hrest⟩ := List.head?_eq_some_iff.1 (h.latest r hrow)
  have hnodup : (r.lease :: rest).Nodup := hrest ▸ h.once.filter _
  rw [hrest] at hsub
  have hlater : r.lease ∈ rest := hsub.of_cons_cons.subset (by simp)
  exact (List.nodup_cons.1 hnodup).1 hlater

theorem call (h : Sound s) (key : String) (ttl : Span) : Sound { s with tenants := s.tenants ++ [{ key, ttl }] } := by
  have hkey : ∀ i ∈ s.grants, State.key? { s with tenants := s.tenants ++ [{ key, ttl }] } i = s.key? i := by
    intro i hi
    obtain ⟨k, hk, _⟩ := h.known i hi
    obtain ⟨c, hc, _⟩ := Option.map_eq_some_iff.1 hk
    unfold State.key?
    rw [List.getElem?_append_left (List.getElem?_eq_some_iff.1 hc).1]
  refine ⟨h.isOpen, h.keys, ?_, h.once, ?_⟩
  . intro r hr
    have hgrants : State.grantsOf { s with tenants := s.tenants ++ [{ key, ttl }] } r.key = s.grantsOf r.key := by
      apply List.filter_congr
      intro i hi
      rw [hkey i hi]
    rw [hgrants]
    exact h.latest r hr
  . intro i hi
    rw [hkey i hi]
    exact h.known i hi

theorem acquired (h : Sound s) {c : Tenant} (hc : s.tenants[i]? = some c) (hi : i ∉ s.grants) {now : Instant}
    (hact : (s.db.leases.tryAcquire c.key i now c.ttl).1 = true) (hkey : Table.refusesText c.key = false) :
    Sound { s with
      db := { s.db with leases := (s.db.leases.tryAcquire c.key i now c.ttl).2 }
      grants := i :: s.grants } := by
  have hown := State.key?_of_getElem? hc
  refine ⟨h.isOpen, LeaseTable.keys_tryAcquire h.keys, ?_, List.nodup_cons.2 ⟨hi, h.once⟩, ?_⟩
  . intro r hr
    show ((i :: s.grants).filter (s.key? · = some r.key)).head? = some r.lease
    rw [List.filter_cons, hown]
    rcases LeaseTable.mem_tryAcquire hact hr with ⟨hr, hne⟩ | ⟨hsame, rfl⟩
    . rw [if_neg (by simpa using Ne.symm hne)]
      exact h.latest r hr
    . rw [if_pos (by simp [hsame])]
      rfl
  . intro j hj
    rcases List.mem_cons.1 hj with rfl | hj
    . exact ⟨c.key, hown, hkey⟩
    . exact h.known j hj

/--
The table may lose rows and have others put off.
-/
theorem kept (h : Sound s) {leases : LeaseTable} (hkeys : List.Sublist leases.keys s.db.leases.keys)
    (hrows : ∀ r ∈ leases.rows, ∃ r₀ ∈ s.db.leases.rows, r₀.key = r.key ∧ r₀.lease = r.lease) :
    Sound { s with db := { s.db with leases } } where
  isOpen := h.isOpen
  keys := h.keys.sublist hkeys
  latest := by
    intro r hr
    obtain ⟨r₀, hr₀, hkey, hlease⟩ := hrows r hr
    rw [← hkey, ← hlease]
    exact h.latest r₀ hr₀
  once := h.once
  known := h.known

theorem safe_attempt {c : Tenant} (hown : s.key? i = some c.key) {now : Instant} {a : Except Error Bool}
    (hacquired : a = .ok true → ∀ row, s.db.leases.row? c.key = some row → row.expiresAt ≤ now.onDatabaseClock)
    (hapart : ∀ k, k ≠ c.key → s'.db.leases.row? k = s.db.leases.row? k) : Safe s (.attempt i now) (.leased a) s' := by
  refine ⟨?_, ?_, nofun, nofun⟩
  . rintro _ _ ⟨⟩ ⟨⟩
    exact ⟨c.key, hown, hacquired rfl⟩
  . intro k hk
    apply hapart
    rintro rfl
    exact hk hown

/--
What comes of an attempt at a key that the database takes is what comes of it in the table.
-/
theorem next_attempt (h : Sound s) {c : Tenant} (hc : s.tenants[i]? = some c) (hfree : i ∉ s.grants)
    (hkey : Table.refusesText c.key = false) (now : Instant) :
    s.next (.attempt i now) = some (.leased (.ok (s.db.leases.tryAcquire c.key i now c.ttl).1),
      { s with
        db := { s.db with leases := (s.db.leases.tryAcquire c.key i now c.ttl).2 }
        grants := if (s.db.leases.tryAcquire c.key i now c.ttl).1 then i :: s.grants else s.grants }) := by
  have hlease := Database.withLeases_of_open h.isOpen hkey fun t => t.tryAcquire c.key i now c.ttl
  simp only [State.next, hc, hfree, if_false, Database.tryLease, hlease]
  cases (s.db.leases.tryAcquire c.key i now c.ttl).1 <;> rfl

/--
What an attempt makes of the leases, and that it is granted only where there is none that has not run out.
-/
theorem attempt (h : Sound s) {now : Instant} (hnext : s.next (.attempt i now) = some (reply, s')) :
    Sound s' ∧ Safe s (.attempt i now) reply s' := by
  obtain ⟨c, hc, hi⟩ := State.of_attempt hnext
  have hown := State.key?_of_getElem? hc
  cases hkey : Table.refusesText c.key with
  | true =>
    simp only [State.next, hc, hi, if_false, Database.tryLease, Database.withLeases_of_refused h.isOpen hkey] at hnext
    cases hnext
    exact ⟨h, safe_attempt hown nofun fun _ _ => rfl⟩
  | false =>
    rw [h.next_attempt hc hi hkey] at hnext
    cases hact : (s.db.leases.tryAcquire c.key i now c.ttl).1 with
    | true =>
      rw [hact] at hnext
      cases hnext
      refine ⟨h.acquired hc hi hact hkey, safe_attempt hown ?_ fun k hk => LeaseTable.row?_tryAcquire_of_ne hk⟩
      intro _ row hrow
      rcases (LeaseTable.tryAcquire_true (Prod.ext hact rfl)).1 with hnone | ⟨row', hrow', hexpired⟩
      . rw [hnone] at hrow
        cases hrow
      . cases hrow.symm.trans hrow'
        exact hexpired
    | false =>
      rw [hact, LeaseTable.tryAcquire_false hact] at hnext
      cases hnext
      exact ⟨h, safe_attempt hown nofun fun _ _ => rfl⟩

/--
Where a call that was granted stands.
-/
theorem of_granted (h : Sound s) {act : Tenant → Reply × Database} (hnext : s.granted i act = some (reply, s')) :
    ∃ c, s.key? i = some c.key ∧ Table.refusesText c.key = false ∧ reply = (act c).1 ∧ s' = { s with db := (act c).2 } := by
  unfold State.granted at hnext
  split at hnext
  case h_2 => cases hnext
  next c hc =>
  split at hnext
  case isFalse => cases hnext
  next hi =>
  cases hnext
  have hown := State.key?_of_getElem? hc
  obtain ⟨key, hkey, hsound⟩ := h.known i hi
  cases hown.symm.trans hkey
  exact ⟨c, hown, hsound, rfl, rfl⟩

theorem renew (h : Sound s) {now : Instant} (hnext : s.next (.renew i now) = some (reply, s')) :
    Sound s' ∧ Safe s (.renew i now) reply s' := by
  rw [State.next] at hnext
  obtain ⟨c, hown, hkey, rfl, rfl⟩ := h.of_granted hnext
  have hrenew := Database.withLeases_of_open h.isOpen hkey fun t => t.renew c.key i now c.ttl
  simp only [Database.renewLease, hrenew]
  have hkeys : (s.db.leases.renew c.key i now c.ttl).2.keys.Sublist s.db.leases.keys := by
    simp only [LeaseTable.keys_renew, List.Sublist.refl]
  refine ⟨h.kept hkeys fun r => LeaseTable.mem_renew, nofun, ?_, ?_, nofun⟩
  . intro k hk
    apply LeaseTable.row?_renew_of_ne
    rintro rfl
    exact hk hown
  . rintro _ key _ ⟨⟩ hr
    cases hown.symm.trans hr.1
    rw [LeaseTable.renew_of_not_own (h.not_own hr)]
    exact ⟨rfl, rfl⟩

theorem release (h : Sound s) (hnext : s.next (.release i) = some (reply, s')) :
    Sound s' ∧ Safe s (.release i) reply s' := by
  rw [State.next] at hnext
  obtain ⟨c, hown, hkey, rfl, rfl⟩ := h.of_granted hnext
  simp only [Database.releaseLease_of_open h.isOpen hkey]
  refine ⟨h.kept LeaseTable.keys_release fun r hr => ⟨r, (List.mem_filter.1 hr).1, rfl, rfl⟩, nofun, ?_, nofun, ?_⟩
  . intro k hk
    apply LeaseTable.row?_release_of_ne
    rintro rfl
    exact hk hown
  . rintro _ key ⟨⟩ hr
    cases hown.symm.trans hr.1
    rw [LeaseTable.release_of_not_own (h.not_own hr)]
    exact ⟨rfl, rfl⟩

/--
Each event keeps the table in order and is safe.
-/
theorem next (h : Sound s) (hnext : s.next ev = some (reply, s')) : Sound s' ∧ Safe s ev reply s' := by
  cases ev with
  | call key ttl =>
    cases hnext
    exact ⟨h.call key ttl, nofun, fun _ _ => rfl, nofun, nofun⟩
  | attempt i now => exact h.attempt hnext
  | renew i now => exact h.renew hnext
  | release i => exact h.release hnext
  | drop i =>
    rw [State.next] at hnext
    obtain ⟨c, _, _, rfl, rfl⟩ := h.of_granted hnext
    exact ⟨h, nofun, fun _ _ => rfl, nofun, nofun⟩

theorem play (h : Sound s) {evs : List Event} (hplay : s.play evs = some s') : Sound s' := by
  induction evs generalizing s with
  | nil =>
    cases hplay
    exact h
  | cons ev evs ih =>
    obtain ⟨⟨reply, s₁⟩, hnext, hrest⟩ := Option.bind_eq_some_iff.1 hplay
    exact ih (h.next hnext).1 hrest

end Sound

/--
Over all lock calls, renewals, releases and dropped tokens of any number of providers that share a database, whatever the
clock reads at each of them: a key has at most one row; a lease is granted only where the key had no row that had not run
out; an event leaves the rows of other keys as they are; and once another lease was granted for the key of a token,
renewals of the token change nothing and tell that it is lost, and its release changes nothing and fails. So of two
tokens of a key of which the second was granted before the release of the first, the release of the first fails.
-/
theorem leases_safe (db : Database) (hopen : db.closed = false) (hempty : db.leases = {}) (evs : List Event) (s : State)
    (hplay : State.play { db } evs = some s) :
    s.db.leases.keys.Nodup ∧ ∀ ev reply s', s.next ev = some (reply, s') → Safe s ev reply s' := by
  have hs := (Sound.start hopen hempty).play hplay
  exact ⟨hs.keys, fun ev reply s' hnext => (hs.next hnext).2⟩

/--
The lease of the first token is renewed once and has run out when the second token takes it over.
-/
theorem leases_safe_takenOver :
    let evs : List Event := [.call "m" (.ofMillis 1000), .call "m" (.ofMillis 5000), .attempt 0 (.ofNanos 0),
      .attempt 1 (.ofNanos 500000000), .renew 0 (.ofNanos 600000000), .drop 0, .attempt 1 (.ofNanos 2000000000)]
    let row : LeaseRow :=
      { key := "m", lease := 1, acquiredAt := .ofNanos 2000000000, expiresAt := .ofNanos 7000000000 }
    let s : State :=
      { db := { leases := { rows := [row] } }
        tenants := [⟨"m", .ofMillis 1000⟩, ⟨"m", .ofMillis 5000⟩]
        grants := [1, 0] }
    State.play { db := {} } evs = some s ∧ s.next (.release 0) = some (.released (.error (.lock (.leaseLost "m"))), s) := by
  intro evs row s
  have hplay : State.play { db := {} } evs = some s := rfl
  have hreplaced : s.Replaced 0 "m" := ⟨rfl, 1, rfl, .refl _⟩
  refine ⟨hplay, ?_⟩
  cases hnext : s.next (.release 0) with
  | none => cases hnext
  | some next =>
    have hsafe := (leases_safe {} rfl rfl evs s hplay).2 _ _ _ hnext
    obtain ⟨hreply, hsame⟩ := hsafe.released 0 "m" rfl hreplaced
    exact congrArg some (Prod.ext hreply hsame)

end Tenancy

end StatusTimeline
