import StatusTimeline.Lease.Acquisition
import StatusTimeline.Proofs.Leasing.Tenancy
import StatusTimeline.Proofs.Time.Seconds

/-!
This module contains the leases of tokens that are alive: they are renewed on time, and so never run out. A token that
is dropped leaves its lease to run out by itself, when its length has passed on the clock of the database.
-/

namespace StatusTimeline

namespace Instant

theorem runOut_iff (last now : Int) (ttl : Span) :
    (ofNanos last).afterOnDatabaseClock ttl ≤ (ofNanos now).onDatabaseClock ↔
      last / 1000 + microsOf ttl ≤ now / 1000 := by
  have hlast : (ofNanos last).onDatabaseClock = ofNanos (last / 1000 * 1000) := by
    rw [onDatabaseClock, toNanos_ofNanos]
  unfold afterOnDatabaseClock
  rw [hlast, shift_of_not_leap (isLeap_ofNanos _), toNanos_ofNanos, onDatabaseClock, toNanos_ofNanos]
  simp only [le_def, slot_ofNanos]
  omega

theorem lasts_iff (last now : Int) (ttl : Span) :
    (ofNanos now).onDatabaseClock < (ofNanos last).afterOnDatabaseClock ttl ↔
      now / 1000 < last / 1000 + microsOf ttl := by
  rw [← Int.not_le, ← runOut_iff, le_def, lt_def, Int.not_le]

end Instant

namespace Lease

/--
The time between two renewals leaves more than a microsecond of the lease, even if it is counted in floating point.
-/
theorem renewalPeriod_le {millis : Nat} (h : 11 ≤ millis) :
    (renewalPeriod (.ofMillis millis)).nanos + 1000 ≤ 1000 * Instant.microsOf (.ofMillis millis) := by
  have hcounted := Instant.le_microsOf_ofMillis millis
  show max (millis * 1000000 / 3) 10000000 + 1000 ≤ _
  omega

end Lease

namespace LeaseTable

variable {t : LeaseTable} {key : String} {lease : Nat} {now : Instant} {ttl : Span} {row : LeaseRow}

theorem tryAcquire_of_lasts (hrow : t.row? key = some row) (h : now.onDatabaseClock < row.expiresAt) :
    t.tryAcquire key lease now ttl = (false, t) := by
  have hlasts : ¬ row.expiresAt ≤ now.onDatabaseClock := Int.not_le.2 h
  unfold tryAcquire
  simp only [hrow, hlasts, if_false]

theorem tryAcquire_of_runOut (hrow : t.row? key = some row) (h : row.expiresAt ≤ now.onDatabaseClock) :
    (t.tryAcquire key lease now ttl).1 = true := by
  unfold tryAcquire
  simp only [hrow, h, if_true]

end LeaseTable

namespace Tenancy

namespace Event

/--
The tenant that acts in an event. A call only makes one.
-/
def tenant? : Event → Option Nat
  | call _ _ => none
  | attempt i _ => some i
  | renew i _ => some i
  | release i => some i
  | drop i => some i

/--
An event that reads the clock of the database reads so many nanoseconds on it.
-/
def At (n : Int) : Event → Prop
  | attempt _ now => now = .ofNanos n
  | renew _ now => now = .ofNanos n
  | _ => True

end Event

/--
A token's lease is renewed each time that a period has passed since it was renewed last, and others do what they like
in between. The schedule goes from the last renewal and the time at its start to those at its end.
-/
inductive OnSchedule (i : Nat) (every : Int) : Int → Int → List Event → Int → Int → Prop where
  | rest (last now : Int) : OnSchedule i every last now [] last now
  | renewed {last now last' now' : Int} {evs : List Event} (htime : now ≤ last + every)
      (hrest : OnSchedule i every (last + every) (last + every) evs last' now') :
      OnSchedule i every last now (.renew i (.ofNanos (last + every)) :: evs) last' now'
  | other {last now n last' now' : Int} {ev : Event} {evs : List Event} (hother : ev.tenant? ≠ some i)
      (hat : ev.At n) (hlater : now ≤ n) (htime : n ≤ last + every) (hrest : OnSchedule i every last n evs last' now') :
      OnSchedule i every last now (ev :: evs) last' now'

variable {s s' : State} {ev : Event} {evs : List Event} {reply : Reply} {i j : Nat} {c : Tenant} {key : String}
  {last now every : Int}

namespace State

theorem granted_grows {act : Tenant → Reply × Database} (h : s.granted i act = some (reply, s')) :
    s.tenants <+: s'.tenants ∧ s.grants <:+ s'.grants := by
  unfold granted at h
  split at h
  . split at h
    . cases h
      exact ⟨List.prefix_refl _, List.suffix_refl _⟩
    . cases h
  . cases h

/--
Calls and grants are never forgotten.
-/
theorem next_grows (hnext : s.next ev = some (reply, s')) : s.tenants <+: s'.tenants ∧ s.grants <:+ s'.grants := by
  cases ev with
  | call key ttl =>
    cases hnext
    exact ⟨List.prefix_append _ _, List.suffix_refl _⟩
  | attempt i now =>
    simp only [next] at hnext
    split at hnext
    . split at hnext
      . cases hnext
      . split at hnext
        . cases hnext
          exact ⟨List.prefix_refl _, List.suffix_cons _ _⟩
        . cases hnext
          exact ⟨List.prefix_refl _, List.suffix_refl _⟩
    . cases hnext
  | renew i now =>
    rw [next] at hnext
    exact granted_grows hnext
  | release i =>
    rw [next] at hnext
    exact granted_grows hnext
  | drop i =>
    rw [next] at hnext
    exact granted_grows hnext

theorem tenant_mono (h : s.tenants <+: s'.tenants) (hc : s.tenants[i]? = some c) : s'.tenants[i]? = some c := by
  obtain ⟨later, hlater⟩ := h
  rw [← hlater, List.getElem?_append_left (List.getElem?_eq_some_iff.1 hc).1]
  exact hc

theorem key?_mono (h : s.tenants <+: s'.tenants) (hkey : s.key? j = some key) : s'.key? j = some key := by
  obtain ⟨c, hc, rfl⟩ := Option.map_eq_some_iff.1 hkey
  apply key?_of_getElem?
  exact tenant_mono h hc

theorem play_grows (hplay : s.play evs = some s') : s.tenants <+: s'.tenants := by
  induction evs generalizing s with
  | nil =>
    cases hplay
    exact List.prefix_refl _
  | cons ev evs ih =>
    obtain ⟨⟨reply, s₁⟩, hnext, hrest⟩ := Option.bind_eq_some_iff.1 hplay
    exact (next_grows hnext).1.trans (ih hrest)

end State

/--
A granted token has the lease of its key, and its lease was last granted or renewed at `last`.
-/
structure Leased (s : State) (i : Nat) (c : Tenant) (last : Int) : Prop where
  sound : Sound s
  tenant : s.tenants[i]? = some c
  granted : i ∈ s.grants
  row : ∃ row, s.db.leases.row? c.key = some row ∧ row.lease = i ∧
    row.expiresAt = (Instant.ofNanos last).afterOnDatabaseClock c.ttl

namespace Sound

variable {d : Tenant}

/--
An attempt that was granted was one at a key that the database takes, by a call that had no lease.
-/
theorem of_attempt_granted (h : Sound s) (hd : s.tenants[j]? = some d) {now : Instant}
    (hnext : s.next (.attempt j now) = some (.leased (.ok true), s')) :
    j ∉ s.grants ∧ Table.refusesText d.key = false := by
  obtain ⟨_, _, hfree⟩ := State.of_attempt hnext
  cases hkey : Table.refusesText d.key with
  | false => exact ⟨hfree, rfl⟩
  | true =>
    simp only [State.next, hd, hfree, if_false, Database.tryLease,
      Database.withLeases_of_refused h.isOpen hkey] at hnext
    cases hnext

end Sound

namespace Leased

theorem accepted (h : Leased s i c last) : Table.refusesText c.key = false := by
  obtain ⟨key, hkey, haccepted⟩ := h.sound.known i h.granted
  cases (State.key?_of_getElem? h.tenant).symm.trans hkey
  exact haccepted

/--
While a lease lasts, all attempts by others are refused.
-/
theorem refused (h : Leased s i c last) (hj : s.key? j = some c.key) (hfree : j ∉ s.grants) {now : Instant}
    (hlasts : now.onDatabaseClock < (Instant.ofNanos last).afterOnDatabaseClock c.ttl) :
    s.next (.attempt j now) = some (.leased (.ok false), s) := by
  obtain ⟨row, hrow, _, hexpires⟩ := h.row
  obtain ⟨d, hd, hkey⟩ := Option.map_eq_some_iff.1 hj
  rw [h.sound.next_attempt hd hfree (hkey ▸ h.accepted), hkey, LeaseTable.tryAcquire_of_lasts hrow (hexpires ▸ hlasts)]
  rfl

/--
When a lease has run out, the next attempt at its key is granted.
-/
theorem takenOver (h : Leased s i c last) (hj : s.key? j = some c.key) (hfree : j ∉ s.grants) {now : Instant}
    (hout : (Instant.ofNanos last).afterOnDatabaseClock c.ttl ≤ now.onDatabaseClock) :
    ∃ s', s.next (.attempt j now) = some (.leased (.ok true), s') := by
  obtain ⟨row, hrow, _, hexpires⟩ := h.row
  obtain ⟨d, hd, hkey⟩ := Option.map_eq_some_iff.1 hj
  rw [h.sound.next_attempt hd hfree (hkey ▸ h.accepted),
    LeaseTable.tryAcquire_of_runOut (hkey ▸ hrow) (hexpires ▸ hout)]
  exact ⟨_, rfl⟩

/--
A lease that is granted lasts from its grant.
-/
theorem start (h : Sound s) (hc : s.tenants[i]? = some c)
    (hnext : s.next (.attempt i (.ofNanos now)) = some (.leased (.ok true), s')) : Leased s' i c now := by
  have hsound := (h.next hnext).1
  obtain ⟨hfree, hkey⟩ := h.of_attempt_granted hc hnext
  rw [h.next_attempt hc hfree hkey] at hnext
  obtain ⟨hreply, rfl⟩ := Prod.ext_iff.1 (Option.some.inj hnext)
  have hgranted : (s.db.leases.tryAcquire c.key i (.ofNanos now) c.ttl).1 = true := by
    simpa using hreply
  exact ⟨hsound, hc, by simp [hgranted], _, LeaseTable.row?_tryAcquire hgranted, rfl, rfl⟩

/--
A renewal finds the lease its own and puts off its end.
-/
theorem renew (h : Leased s i c last) (n : Int) :
    ∃ s', s.next (.renew i (.ofNanos n)) = some (.leased (.ok true), s') ∧ Leased s' i c n := by
  obtain ⟨row, hrow, rfl, _⟩ := h.row
  have hkey := LeaseTable.key_of_row? hrow
  have hown : s.db.leases.isOwn c.key row.lease = true := by
    rw [LeaseTable.isOwn, List.any_eq_true]
    refine ⟨row, List.mem_of_find?_eq_some hrow, ?_⟩
    simp [hkey]
  have hlease :=
    Database.withLeases_of_open h.sound.isOpen h.accepted fun t => t.renew c.key row.lease (.ofNanos n) c.ttl
  have hnext : s.next (.renew row.lease (.ofNanos n)) = some (.leased (.ok true),
      { s with db := { s.db with leases := (s.db.leases.renew c.key row.lease (.ofNanos n) c.ttl).2 } }) := by
    rw [← hown]
    simp only [State.next, State.granted, h.tenant, h.granted, if_true, Database.renewLease, hlease]
    rfl
  refine ⟨_, hnext, (h.sound.next hnext).1, h.tenant, h.granted, ?_⟩
  refine ⟨{ row with expiresAt := (Instant.ofNanos n).afterOnDatabaseClock c.ttl }, ?_, rfl, rfl⟩
  rw [LeaseTable.row?_renew, hrow]
  simp [hkey]

/--
What others do leaves a lease alone as long as it lasts when they attempt to take its key.
-/
theorem other (h : Leased s i c last) (hother : ev.tenant? ≠ some i)
    (hlasts : ∀ j now, ev = .attempt j now → s.key? j = some c.key →
      now.onDatabaseClock < (Instant.ofNanos last).afterOnDatabaseClock c.ttl)
    (hnext : s.next ev = some (reply, s')) : Leased s' i c last := by
  obtain ⟨hsound, hsafe⟩ := h.sound.next hnext
  obtain ⟨htenants, hgrants⟩ := State.next_grows hnext
  refine ⟨hsound, State.tenant_mono htenants h.tenant, hgrants.subset h.granted, ?_⟩
  obtain ⟨row, hrow, rfl, hexpires⟩ := h.row
  refine ⟨row, ?_, rfl, hexpires⟩
  by_cases hkey : ev.key? s = some c.key
  case neg =>
    rw [hsafe.apart c.key hkey]
    exact hrow
  cases ev with
  | call _ _ => cases hkey
  | drop _ => cases hkey
  | attempt j now =>
    obtain ⟨_, _, hfree⟩ := State.of_attempt hnext
    rw [h.refused hkey hfree (hlasts j now rfl hkey)] at hnext
    cases hnext
    exact hrow
  | renew j now =>
    have hne : row.lease ≠ j := fun hsame => hother (congrArg some hsame.symm)
    rw [State.next] at hnext
    obtain ⟨d, _, haccepted, _, rfl⟩ := h.sound.of_granted hnext
    have hrenew := Database.withLeases_of_open h.sound.isOpen haccepted fun t => t.renew d.key j now d.ttl
    simp only [Database.renewLease, hrenew]
    rw [LeaseTable.row?_renew, hrow]
    simp [hne]
  | release j =>
    have hne : row.lease ≠ j := fun hsame => hother (congrArg some hsame.symm)
    rw [State.next] at hnext
    obtain ⟨d, _, haccepted, _, rfl⟩ := h.sound.of_granted hnext
    simp only [Database.releaseLease_of_open h.sound.isOpen haccepted]
    exact LeaseTable.row?_release hrow fun hsame => hne hsame.2

/--
A lease that is renewed on schedule lasts.
-/
theorem onSchedule {last' now' : Int} (hevs : OnSchedule i every last now evs last' now')
    (hevery : every + 1000 ≤ 1000 * Instant.microsOf c.ttl) (h : Leased s i c last) (hplay : s.play evs = some s') :
    Leased s' i c last' := by
  induction hevs generalizing s with
  | rest last now =>
    cases hplay
    exact h
  | renewed _ _ ih =>
    obtain ⟨s₁, hnext, h₁⟩ := h.renew _
    rw [State.play, hnext] at hplay
    exact ih h₁ hplay
  | other hother hat _ htime _ ih =>
    obtain ⟨⟨reply, s₁⟩, hnext, hrest⟩ := Option.bind_eq_some_iff.1 hplay
    refine ih (h.other hother ?_ hnext) hrest
    rintro j _ rfl _
    rw [hat, Instant.lasts_iff]
    omega

theorem others (h : Leased s i c last) (hothers : ∀ ev ∈ evs, ev.tenant? ≠ some i)
    (hlasts : ∀ j now, Event.attempt j now ∈ evs → s'.key? j = some c.key →
      now.onDatabaseClock < (Instant.ofNanos last).afterOnDatabaseClock c.ttl)
    (hplay : s.play evs = some s') : Leased s' i c last := by
  induction evs generalizing s with
  | nil =>
    cases hplay
    exact h
  | cons ev evs ih =>
    have hgrows := State.play_grows hplay
    obtain ⟨⟨reply, s₁⟩, hnext, hrest⟩ := Option.bind_eq_some_iff.1 hplay
    have h₁ : Leased s₁ i c last := by
      apply h.other (hothers ev (by simp)) _ hnext
      rintro j now rfl hj
      exact hlasts j now (by simp) (State.key?_mono hgrows hj)
    apply ih h₁ _ _ hrest
    . intro ev' hev'
      exact hothers ev' (by simp [hev'])
    . intro j now hmem
      exact hlasts j now (by simp [hmem])

end Leased

/--
A lease lasts as long as its token: it is still the lease of its key, its next renewal succeeds, and until then the key
is granted to nobody else. Once the token is dropped, the key is granted to the first attempt that comes when the length
of the lease has passed on the clock of the database, and to none before.
-/
structure Lasts (s : State) (i : Nat) (c : Tenant) (last : Int) : Prop where
  owned : s.db.leases.owner? c.key = some i
  renewed : ∃ s', s.next (.renew i (.ofNanos (last + (Lease.renewalPeriod c.ttl).nanos))) =
    some (.leased (.ok true), s')
  alone : ∀ j n, s.key? j = some c.key → j ∉ s.grants → n ≤ last + (Lease.renewalPeriod c.ttl).nanos →
    s.next (.attempt j (.ofNanos n)) = some (.leased (.ok false), s)
  freed : ∀ evs s', s.play (.drop i :: evs) = some s' → (∀ ev ∈ evs, ev.tenant? ≠ some i) →
    (∀ j now, Event.attempt j now ∈ evs → s'.key? j = some c.key →
      now.onDatabaseClock < (Instant.ofNanos last).afterOnDatabaseClock c.ttl) →
    ∀ j n, s'.key? j = some c.key → j ∉ s'.grants →
      ∃ s'', s'.next (.attempt j (.ofNanos n)) =
        some (.leased (.ok (last / 1000 + Instant.microsOf c.ttl ≤ n / 1000)), s'')

theorem Leased.lasts (h : Leased s i c last)
    (hperiod : (Lease.renewalPeriod c.ttl).nanos + 1000 ≤ 1000 * Instant.microsOf c.ttl) : Lasts s i c last where
  owned := by
    obtain ⟨row, hrow, hlease, _⟩ := h.row
    rw [LeaseTable.owner?, hrow, Option.map_some, hlease]
  renewed := by
    obtain ⟨s', hnext, _⟩ := h.renew (last + (Lease.renewalPeriod c.ttl).nanos)
    exact ⟨s', hnext⟩
  alone := by
    intro j n hj hfree hn
    apply h.refused hj hfree
    rw [Instant.lasts_iff]
    omega
  freed := by
    intro evs s' hplay hothers hlasts j n hj hfree
    obtain ⟨⟨reply, s₁⟩, hdrop, hrest⟩ := Option.bind_eq_some_iff.1 hplay
    simp only [State.next, State.granted, h.tenant, h.granted, if_true] at hdrop
    cases hdrop
    have h' := h.others hothers hlasts hrest
    by_cases hout : last / 1000 + Instant.microsOf c.ttl ≤ n / 1000
    . rw [decide_eq_true hout]
      apply h'.takenOver hj hfree
      rwa [Instant.runOut_iff]
    . rw [decide_eq_false hout]
      refine ⟨s', h'.refused hj hfree ?_⟩
      rw [Instant.lasts_iff]
      omega

/--
Take any providers that share a database, and a token whose lease is of a whole number of milliseconds and at least 11
of them. While the token is renewed on schedule, its lease lasts, however long that is and whatever others attempt in
between. The length of a lease is what the database counts of it, which below 2 ^ 33 seconds is the length itself.
-/
theorem lease_lasts (db : Database) (hopen : db.closed = false) (hempty : db.leases = {}) (before : List Event)
    (s₀ s₁ s : State) (hbefore : State.play { db } before = some s₀) (i millis : Nat) (hmillis : 11 ≤ millis)
    (key : String) (hi : s₀.tenants[i]? = some ⟨key, .ofMillis millis⟩) (granted : Int)
    (hgrant : s₀.next (.attempt i (.ofNanos granted)) = some (.leased (.ok true), s₁)) (evs : List Event)
    (last now : Int)
    (hevs : OnSchedule i (Lease.renewalPeriod (.ofMillis millis)).nanos granted granted evs last now)
    (hplay : s₁.play evs = some s) :
    Lasts s i ⟨key, .ofMillis millis⟩ last ∧
      (millis < 2 ^ 33 * 1000 → Instant.microsOf (.ofMillis millis) = millis * 1000) := by
  have hperiod := Lease.renewalPeriod_le hmillis
  have hstart := Leased.start ((Sound.start hopen hempty).play hbefore) hi hgrant
  have hleased : Leased s i ⟨key, .ofMillis millis⟩ last := by
    apply Leased.onSchedule hevs _ hstart hplay
    exact_mod_cast hperiod
  exact ⟨hleased.lasts hperiod, Instant.microsOf_ofMillis⟩

/--
The lease is held for longer than its length. It is renewed three times and then dropped, and it is free one second
after the last renewal.
-/
theorem lease_lasts_renewed :
    let before : List Event := [.call "m" (.ofMillis 1000), .call "m" (.ofMillis 5000)]
    let held : List Event := [.renew 0 (.ofNanos 333333333), .attempt 1 (.ofNanos 600000000),
      .renew 0 (.ofNanos 666666666), .renew 0 (.ofNanos 999999999), .attempt 1 (.ofNanos 1200000000)]
    let dropped : List Event := [.drop 0, .attempt 1 (.ofNanos 1999998999)]
    let row : LeaseRow := { key := "m", lease := 0, acquiredAt := .ofNanos 0, expiresAt := .ofNanos 1999999000 }
    let s : State :=
      { db := { leases := { rows := [row] } }
        tenants := [⟨"m", .ofMillis 1000⟩, ⟨"m", .ofMillis 5000⟩]
        grants := [0] }
    State.play {} (before ++ .attempt 0 (.ofNanos 0) :: held) = some s ∧
      s.next (.attempt 1 (.ofNanos 1333333332)) = some (.leased (.ok false), s) ∧
      s.play dropped = some s ∧
      ∃ s', s.next (.attempt 1 (.ofNanos 1999999999)) = some (.leased (.ok true), s') := by
  intro before held dropped row s
  have hplay : State.play {} (before ++ .attempt 0 (.ofNanos 0) :: held) = some s := rfl
  have hdropped : s.play dropped = some s := rfl
  have hevs : OnSchedule 0 333333333 0 0 held 999999999 1200000000 := by
    apply OnSchedule.renewed (by decide)
    refine .other (n := 600000000) (by decide) rfl (by decide) (by decide) ?_
    apply OnSchedule.renewed (by decide)
    apply OnSchedule.renewed (by decide)
    refine .other (n := 1200000000) (by decide) rfl (by decide) (by decide) ?_
    exact .rest _ _
  obtain ⟨hlasts, hlength⟩ :=
    lease_lasts {} rfl rfl before _ _ s rfl 0 1000 (by decide) "m" rfl 0 rfl held 999999999 1200000000 hevs rfl
  have hothers : ∀ ev ∈ [Event.attempt 1 (.ofNanos 1999998999)], ev.tenant? ≠ some 0 := by decide
  have hfreed := hlasts.freed _ s hdropped hothers (by
    rintro j now hmem _
    obtain ⟨rfl, rfl⟩ : j = 1 ∧ now = .ofNanos 1999998999 := by simpa using hmem
    decide +kernel) 1 1999999999 rfl (by decide)
  rw [hlength (by decide)] at hfreed
  exact ⟨hplay, hlasts.alone 1 _ rfl (by decide) (by decide), hdropped, hfreed⟩

/--
A length of more than 2 ^ 33 seconds may be counted longer than it is: this one by eight microseconds.
-/
theorem lease_outlasts_ttl :
    let ttl : Span := .ofMillis 90000000000001
    let evs : List Event := [.call "m" ttl, .call "m" (.ofMillis 1000), .attempt 0 (.ofNanos 0), .drop 0]
    ∃ s, State.play {} evs = some s ∧ s.grants = [0] ∧
      s.next (.attempt 1 (.ofNanos ttl.nanos)) = some (.leased (.ok false), s) :=
  ⟨_, rfl, rfl, rfl⟩

end Tenancy

end StatusTimeline
