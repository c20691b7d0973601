import Mathlib.Data.List.Induction
import StatusTimeline.Proofs.Leasing.Standing
import StatusTimeline.Proofs.Text.Uuid

/-!
This module contains what leases give to clients that record, and what they do not. A monitor has several open
intervals exactly when an interval was appended by a client that others had overtaken since it had looked at the latest
one, and that takes a lease that ran out while its client was still at work.
-/

namespace StatusTimeline

namespace Leasing

open Interleaving (Client Entry Reply)

variable {T T' : Uuid → Prop} {Live : Nat → Prop} {ttl : Span} {sh sh' : Shared} {i : Nat} {monitor : Uuid}
  {how : Reply} {α : Type} {Q : α → Stage → Prop}

/--
A step of a client keeps what is shared sound and lets the others stand where they are, if those that have a lock are
still at work.
-/
structure Step (T T' : Uuid → Prop) (Live : Nat → Prop) (i : Nat) (sh sh' : Shared) : Prop where
  sound : Sound T' sh'
  others : ∀ j m stage, j ≠ i → (stage ≠ .outside → Live j) → Stands T sh j m stage → Stands T' sh' j m stage

theorem Passes.step {ens : List Entry} (h : Passes ens sh sh') (hens : ∀ en ∈ ens, en.client = i) (hs : Sound T sh)
    (hT : ∀ m, T m → T' m)
    (howner : ∀ j m, j ≠ i → Live j → sh.owner? m = some j → T' m ∨ sh'.owner? m = some j) :
    Step T T' Live i sh sh' := by
  refine ⟨h.sound hs hT, ?_⟩
  intro j m stage hj hlive hst
  apply h.stands (fun en hen => looks_of_ne ((hens en hen).trans_ne hj.symm)) hst (hT m)
  intro hstage hown
  exact howner j m hj (hlive hstage) hown

theorem Passes.step_of_owner {ens : List Entry} (h : Passes ens sh sh') (hens : ∀ en ∈ ens, en.client = i)
    (hs : Sound T sh) (hT : ∀ m, T m → T' m) (howner : ∀ m, sh'.owner? m = sh.owner? m) :
    Step T T' Live i sh sh' := by
  apply h.step hens hs hT
  intro j m _ _ hown
  rw [howner]
  exact .inr hown

theorem reply_passes {c : Call} {a : Except Error c.Answer} (hs : Sound T sh)
    (h : sh.reply ttl i how c = some (a, sh'))
    (hintervals : ∀ stamp db, answer ttl sh.db i stamp c = some (a, db) → db.intervals = sh.db.intervals)
    (happends : ∀ m, Entry.appends m { client := i, call := c, reply := how, answer := a } = false) :
    Passes [{ client := i, call := c, reply := how, answer := a }] sh sh' := by
  rcases Shared.reply_cases h with ⟨stamp, db, _, hreads, _, hanswer, rfl⟩ | ⟨waited, _, rfl⟩
  . simp only [Shared.reads, Bool.and_eq_true, decide_eq_true_eq] at hreads
    exact ⟨hintervals stamp db hanswer, ⟨hreads.2, hreads.1⟩, rfl, by simpa using happends⟩
  . exact ⟨rfl, ⟨hs.readable, by simp [Instant.le_def, Shared.note]⟩, rfl, by simpa using happends⟩

theorem reply_owner {c : Call} {a : Except Error c.Answer} (h : sh.reply ttl i how c = some (a, sh'))
    (hleases : ∀ stamp db, answer ttl sh.db i stamp c = some (a, db) → db.leases = sh.db.leases) (m : Uuid) :
    sh'.owner? m = sh.owner? m := by
  have heq : sh'.db.leases = sh.db.leases := by
    rcases Shared.reply_cases h with ⟨stamp, db, _, _, _, hanswer, rfl⟩ | ⟨waited, _, rfl⟩
    . exact hleases stamp db hanswer
    . rfl
  rw [Shared.owner?, heq, Shared.owner?]

/--
What a call of a client comes to: a step that others do not suffer from, and a stage at which the client goes on by its
course.
-/
def Proceeds (T T' : Uuid → Prop) (Live : Nat → Prop) (i : Nat) (sh sh' : Shared) (monitor : Uuid)
    (Q : α → Stage → Prop) (rest : Program α) : Prop :=
  Step T T' Live i sh sh' ∧ ∃ stage, Follows monitor Q rest stage ∧ Stands T' sh' i monitor stage

/--
A call that is neither about intervals nor about locks leaves its client at its stage.
-/
theorem proceeds_aside {c : Call} {a : Except Error c.Answer} {rest : Program α} {stage : Stage} (hs : Sound T sh)
    (hst : Stands T sh i monitor stage) (hT : ∀ m, T m → T' m) (h : sh.reply ttl i how c = some (a, sh'))
    (hframe : ∀ stamp db, answer ttl sh.db i stamp c = some (a, db) →
      db.intervals = sh.db.intervals ∧ db.leases = sh.db.leases)
    (happends : ∀ m, Entry.appends m { client := i, call := c, reply := how, answer := a } = false)
    (hlooks : Entry.looks i monitor { client := i, call := c, reply := how, answer := a } = false)
    (hf : Follows monitor Q rest stage) : Proceeds T T' Live i sh sh' monitor Q rest := by
  have hpasses := reply_passes hs h (fun stamp db hanswer => (hframe stamp db hanswer).1) happends
  have howner := reply_owner h fun stamp db hanswer => (hframe stamp db hanswer).2
  refine ⟨hpasses.step_of_owner (by simp) hs hT howner, stage, hf,
    hpasses.stands (by simpa using hlooks) hst (hT monitor) ?_⟩
  intro _ hown
  rw [howner]
  exact .inr hown

theorem proceeds_lock {next : Except Error Token → Program α} {a : Except Error Token} (hs : Sound T sh)
    (hT : ∀ m, T m → T' m)
    (htake : ∀ stamp row, how = .served stamp → sh.db.leases.row? (Engine.lockKey monitor) = some row →
      row.expiresAt ≤ stamp.now.onDatabaseClock → row.lease ≠ i → Live row.lease → T' monitor)
    (h : sh.reply ttl i how (.lock (Engine.lockKey monitor)) = some (a, sh'))
    (hok : ∀ token, Follows monitor Q (next (.ok token)) (.inside token))
    (herror : ∀ err, Follows monitor Q (next (.error err)) .outside) :
    Proceeds T T' Live i sh sh' monitor Q (next a) := by
  have hpasses := reply_passes hs h (by
    intro stamp db hanswer
    rcases answer_lock hanswer with ⟨_, _, rfl⟩ | ⟨_, _, _, rfl⟩ <;> rfl) fun _ => rfl
  cases a with
  | error err =>
    have howner := reply_owner h (by
      intro stamp db hanswer
      rcases answer_lock hanswer with ⟨_, _, rfl⟩ | ⟨_, _, habs, _⟩
      . rfl
      . cases habs)
    exact ⟨hpasses.step_of_owner (by simp) hs hT howner, .outside, herror err, trivial⟩
  | ok token =>
    rcases Shared.reply_cases h with ⟨stamp, db, rfl, _, _, hanswer, rfl⟩ | ⟨waited, rfl, _⟩
    . rcases answer_lock hanswer with ⟨_, habs, _⟩ | ⟨leases, hacquire, htoken, rfl⟩
      . cases habs
      . have htoken := Except.ok.inj htoken
        subst htoken
        obtain ⟨_, hnew, _⟩ := LeaseTable.tryAcquire_true hacquire
        refine ⟨hpasses.step (by simp) hs hT ?_, .inside _, hok _, rfl, .inr hnew⟩
        intro j m hj hlive hown
        rcases LeaseTable.owner?_tryAcquire hacquire hown with hown | ⟨hkey, row, hrow, rfl, hexpired⟩
        . exact .inr hown
        . -- the lock that is granted is that of `j`, whose lease has run out
          left
          rw [Engine.lockKey_inj hkey]
          exact htake stamp row rfl hrow hexpired hj hlive
    . cases h

theorem proceeds_release {token : Token} {next : Except Error Unit → Program α} {a : Except Error Unit}
    (hs : Sound T sh) (hst : Stands T sh i monitor (.inside token)) (hT : ∀ m, T m → T' m)
    (h : sh.reply ttl i how (.release token) = some (a, sh'))
    (hf : ∀ answer, Follows monitor Q (next answer) .outside) :
    Proceeds T T' Live i sh sh' monitor Q (next a) := by
  obtain ⟨rfl, _⟩ := hst
  have hpasses := reply_passes hs h (by
    intro stamp db hanswer
    rcases answer_release hanswer with rfl | rfl <;> rfl) fun _ => rfl
  refine ⟨hpasses.step (by simp) hs hT ?_, .outside, hf a, trivial⟩
  intro j m hj _ hown
  right
  rcases Shared.reply_cases h with ⟨stamp, db, _, _, _, hanswer, rfl⟩ | ⟨waited, rfl, _⟩
  . rcases answer_release hanswer with rfl | rfl
    . exact hown
    . apply LeaseTable.owner?_release hown
      intro ⟨_, hji⟩
      exact hj hji
  . cases h

theorem proceeds_findLatest {token : Token} {next : Except Error (Option Interval) → Program α}
    {a : Except Error (Option Interval)} (hs : Sound T sh) (hst : Stands T sh i monitor (.inside token))
    (hT : ∀ m, T m → T' m) (h : sh.reply ttl i how (.store (.findLatest monitor)) = some (a, sh'))
    (hok : ∀ latest, Follows monitor Q (next (.ok latest)) (.looked token (latest.map (·.id))))
    (herror : ∀ err, Follows monitor Q (next (.error err)) (.inside token)) :
    Proceeds T T' Live i sh sh' monitor Q (next a) := by
  have hframe : ∀ stamp db, answer ttl sh.db i stamp (.store (.findLatest monitor)) = some (a, db) → db = sh.db :=
    fun stamp db hanswer => (answer_findLatest hanswer).1
  have hpasses := reply_passes hs h (by
    intro stamp db hanswer
    rw [hframe stamp db hanswer]) fun _ => rfl
  have howner := reply_owner h (by
    intro stamp db hanswer
    rw [hframe stamp db hanswer])
  have hholds : Holds T' sh' i monitor token := hst.later (hT monitor) (howner monitor)
  refine ⟨hpasses.step_of_owner (by simp) hs hT howner, ?_⟩
  cases a with
  | error err => exact ⟨.inside token, herror err, hholds⟩
  | ok latest =>
    refine ⟨.looked token (latest.map (·.id)), hok latest, hholds, sh'.store.lineage monitor, [], by simp, ?_, ?_,
      .inr rfl⟩
    . -- what was found is the last interval of the monitor
      rcases Shared.reply_cases h with ⟨stamp, db, _, _, _, hanswer, _⟩ | ⟨waited, rfl, _⟩
      . rw [(answer_findLatest hanswer).2 latest rfl, hs.tidy.latest?_eq, hpasses.store_eq]
        exact List.getLast?_map.symm
      . cases h
    . rw [hpasses.trace]
      simp [stale, Entry.looks]

theorem proceeds_append {token : Token} {new : NewInterval} {close : Option Uuid}
    {next : Except Error Interval → Program α} {a : Except Error Interval} (hs : Sound T sh)
    (hst : Stands T sh i new.monitorId (.looked token close)) (hT : ∀ m, T m → T' m)
    (h : sh.reply ttl i how (.store (.append new close)) = some (a, sh'))
    (hf : ∀ answer, Follows new.monitorId Q (next answer) (.inside token)) :
    Proceeds T T' Live i sh sh' new.monitorId Q (next a) := by
  cases a with
  | error err =>
    have hframe : ∀ stamp db, answer ttl sh.db i stamp (.store (.append new close)) = some (.error err, db) →
        db.intervals = sh.db.intervals ∧ db.leases = sh.db.leases := by
      intro stamp db hanswer
      rcases answer_append hanswer with ⟨_, _, rfl⟩ | ⟨_, _, _, habs, _⟩
      . exact ⟨rfl, rfl⟩
      . cases habs
    have hinside : Stands T sh i new.monitorId (.inside token) := hst.1
    exact proceeds_aside hs hinside hT h hframe (fun _ => rfl) (by simp [Entry.looks]) (hf _)
  | ok created =>
    rcases Shared.reply_cases h with ⟨stamp, db, rfl, hreads, hfresh, hanswer, rfl⟩ | ⟨waited, rfl, _⟩
    . rcases answer_append hanswer with ⟨_, habs, _⟩ | ⟨created', intervals, happ, hcreated, rfl⟩
      . cases habs
      . cases hcreated
        have happends : Appends i stamp new close sh
            ({ sh with db := { sh.db with intervals }, clock := stamp.now }.note
              { client := i, call := .store (.append new close), reply := .served stamp, answer := .ok created }) := by
          refine ⟨hreads, hfresh, ⟨created, happ⟩, rfl, rfl, _, rfl, rfl, fun _ => rfl, ?_⟩
          intro j m
          simp [Entry.looks]
        refine ⟨⟨happends.sound hs hst hT, ?_⟩, .inside token, hf _, happends.own hst hT⟩
        intro j m stage hj _ hother
        exact happends.others hst hT hj hother
    . cases h

/--
Whatever call a client makes that keeps to the course, it proceeds, if `T'` tells of the takeover that may happen.
-/
theorem proceeds_call {c : Call} {next : Except Error c.Answer → Program α} {a : Except Error c.Answer} {stage : Stage}
    (hs : Sound T sh) (hf : Follows monitor Q (.call c next) stage) (hst : Stands T sh i monitor stage)
    (hT : ∀ m, T m → T' m)
    (htake : ∀ stamp row, how = .served stamp → c = .lock (Engine.lockKey monitor) →
      sh.db.leases.row? (Engine.lockKey monitor) = some row → row.expiresAt ≤ stamp.now.onDatabaseClock →
        row.lease ≠ i → Live row.lease → T' monitor)
    (h : sh.reply ttl i how c = some (a, sh')) : Proceeds T T' Live i sh sh' monitor Q (next a) := by
  cases c with
  | lock key =>
    obtain ⟨_, rfl, hok, herror⟩ := hf
    exact proceeds_lock hs hT (fun stamp row hhow => htake stamp row hhow rfl) h hok herror
  | release token =>
    obtain ⟨rfl, hf⟩ := hf
    exact proceeds_release hs hst hT h hf
  | setPointer update =>
    exact proceeds_aside hs hst hT h (fun _ _ => answer_setPointer) (fun _ => rfl) (by simp [Entry.looks]) (hf a)
  | resolve user =>
    have hframe : ∀ stamp db, answer ttl sh.db i stamp (.resolve user) = some (a, db) →
        db.intervals = sh.db.intervals ∧ db.leases = sh.db.leases := by
      intro stamp db hanswer
      cases hanswer
      exact ⟨rfl, rfl⟩
    exact proceeds_aside hs hst hT h hframe (fun _ => rfl) (by simp [Entry.looks]) (hf a)
  | store c =>
    cases c with
    | findLatest m =>
      obtain ⟨rfl, token, rfl, hok, herror⟩ := hf
      exact proceeds_findLatest hs hst hT h hok herror
    | append new close =>
      obtain ⟨rfl, token, rfl, hf⟩ := hf
      exact proceeds_append hs hst hT h hf
    | _ => exact hf.elim

/--
What is shared is sound, and each client stands at a stage of its course.
-/
structure Coherent (T : Uuid → Prop) (st : State) : Prop where
  sound : Sound T st.shared
  clients : ∀ i c, st.client? i = some c → ∃ monitor stage,
    Follows monitor (fun _ s => s = .outside) c.rest stage ∧ Stands T st.shared i monitor stage

/--
Whether a client has not come to an end.
-/
def State.IsAtWork (st : State) (i : Nat) : Prop := ∃ c, st.client? i = some c ∧ c.pending?.isSome = true

namespace Coherent

variable {st st' : State} {e : Engine} {ev : Event}

theorem start (T : Uuid → Prop) (monitors : Option (List MonitorRow)) (users : Option Directory) :
    Coherent T (.start monitors users) := by
  refine ⟨sound_start T monitors users, ?_⟩
  intro i c hc
  simp [State.client?, State.start] at hc

theorem isAtWork {c : Client} {stage : Stage} (hc : st.client? i = some c)
    (hf : Follows monitor (fun _ s => s = .outside) c.rest stage) (hstage : stage ≠ .outside) : st.IsAtWork i := by
  refine ⟨c, hc, ?_⟩
  unfold Interleaving.Client.pending?
  cases hrest : c.rest with
  | done a =>
    rw [hrest] at hf
    exact absurd hf hstage
  | call call next => rfl

theorem begin (h : Coherent T st) (he : e.compound = .whole) {r : ChangeRequest}
    (hn : next e ttl st (.begin r) = some st') : Coherent T st' := by
  simp only [next, Option.some.injEq] at hn
  subst hn
  refine ⟨h.sound, ?_⟩
  intro i c hc
  rw [State.client?, join_getElem?_concat] at hc
  split at hc
  . cases hc
    obtain ⟨monitor, hf⟩ := follows_record he r
    exact ⟨monitor, .outside, hf, trivial⟩
  . exact h.clients i c hc

theorem cancel (h : Coherent T st) (hn : next e ttl st (.cancel i) = some st') : Coherent T st' := by
  simp only [next] at hn
  split at hn
  . next c hc =>
    cases hn
    refine ⟨h.sound, ?_⟩
    intro j c' hc'
    rw [State.client?, join_getElem?_set (lt_of_join_getElem? hc)] at hc'
    split at hc'
    . cases hc'
    . exact h.clients j c' hc'
  . cases hn

theorem renew (h : Coherent T st) {key : String} {now : Instant}
    (hn : next e ttl st (.renew i key now) = some st') : Coherent T st' := by
  simp only [next] at hn
  split at hn
  . next hreads =>
    cases hn
    simp only [Shared.reads, Bool.and_eq_true, decide_eq_true_eq] at hreads
    have hrenew : (st.shared.db.renewLease now key i ttl).2.intervals = st.shared.db.intervals ∧
        ∀ k, (st.shared.db.renewLease now key i ttl).2.leases.owner? k = st.shared.db.leases.owner? k := by
      cases hlease : st.shared.db.renewLease now key i ttl with
      | mk outcome db =>
        rcases withLeases_cases hlease with ⟨_, _, rfl⟩ | ⟨leases, done, hact, _, rfl⟩
        . exact ⟨rfl, fun _ => rfl⟩
        . refine ⟨rfl, ?_⟩
          intro k
          have howner : (st.shared.db.leases.renew key i now ttl).2.owner? k = st.shared.db.leases.owner? k :=
            LeaseTable.owner?_renew k
          rwa [hact] at howner
    have hpasses : Passes [] st.shared
        { st.shared with db := (st.shared.db.renewLease now key i ttl).2, clock := now } :=
      ⟨hrenew.1, ⟨hreads.2.2, hreads.2.1⟩, rfl, by simp⟩
    refine ⟨hpasses.sound h.sound fun _ => id, ?_⟩
    intro j c hc
    obtain ⟨monitor, stage, hf, hst⟩ := h.clients j c hc
    refine ⟨monitor, stage, hf, hpasses.stands (by simp) hst id ?_⟩
    intro _ hown
    exact .inr ((hrenew.2 _).trans hown)
  . cases hn

theorem mono (h : Coherent T st) (hT : ∀ m, T m → T' m) : Coherent T' st := by
  have hpasses : Passes [] st.shared st.shared :=
    ⟨rfl, ⟨h.sound.readable, by simp [Instant.le_def]⟩, rfl, by simp⟩
  refine ⟨hpasses.sound h.sound hT, ?_⟩
  intro i c hc
  obtain ⟨monitor, stage, hf, hst⟩ := h.clients i c hc
  exact ⟨monitor, stage, hf, hpasses.stands (by simp) hst (hT monitor) fun _ hown => .inr hown⟩

theorem advance (h : Coherent T st) (hn : next e ttl st (.advance i how) = some st') :
    Coherent (fun m => T m ∨ st.TakesOver (.advance i how) m) st' := by
  simp only [next] at hn
  split at hn
  . next request c next after hc =>
    obtain ⟨⟨a, shared⟩, hreply, rfl⟩ := Option.map_eq_some_iff.1 hn
    obtain ⟨monitor, stage, hf, hst⟩ := h.clients i _ hc
    have hT : ∀ m, T m → T m ∨ st.TakesOver (.advance i how) m := fun _ => .inl
    have htake : ∀ stamp row, how = .served stamp → c = .lock (Engine.lockKey monitor) →
        st.shared.db.leases.row? (Engine.lockKey monitor) = some row → row.expiresAt ≤ stamp.now.onDatabaseClock →
          row.lease ≠ i → st.IsAtWork row.lease → T monitor ∨ st.TakesOver (.advance i how) monitor := by
      intro stamp row hhow hlock hrow hexpired hne ⟨other, hother, hpending⟩
      subst hhow hlock
      exact .inr ⟨i, stamp, _, row, other, rfl, hc, rfl, hrow, hexpired, hne, hother, hpending⟩
    obtain ⟨hstep, hown⟩ := proceeds_call h.sound hf hst hT htake hreply
    refine ⟨hstep.sound, ?_⟩
    intro j c' hc'
    rw [State.client?, join_getElem?_set (lt_of_join_getElem? hc)] at hc'
    split at hc'
    . next hji =>
      subst hji
      cases hc'
      obtain ⟨stage', hf', hst'⟩ := hown
      exact ⟨monitor, stage', hf', hst'⟩
    . next hji =>
      obtain ⟨m, stage', hf', hst'⟩ := h.clients j c' hc'
      exact ⟨m, stage', hf', hstep.others j m stage' hji (isAtWork hc' hf') hst'⟩
  . cases hn

/--
Each event keeps a state coherent, if the takeovers that are told of include the one that the event may be.
-/
theorem step (h : Coherent T st) (he : e.compound = .whole) (hn : next e ttl st ev = some st') :
    Coherent (fun m => T m ∨ st.TakesOver ev m) st' := by
  cases ev with
  | begin r => exact (h.begin he hn).mono fun _ => .inl
  | advance i how => exact h.advance hn
  | renew i key now => exact (h.renew hn).mono fun _ => .inl
  | cancel i => exact (h.cancel hn).mono fun _ => .inl

end Coherent

theorem play_concat (e : Engine) (ttl : Span) (st : State) (events : List Event) (ev : Event) :
    play e ttl st (events ++ [ev]) = (play e ttl st events).bind fun st => next e ttl st ev := by
  induction events generalizing st with
  | nil =>
    simp only [List.nil_append, play, Option.bind_some]
    cases next e ttl st ev <;> rfl
  | cons ev' events ih =>
    simp only [List.cons_append, play]
    cases next e ttl st ev' with
    | none => rfl
    | some st => exact ih st

/--
The lock of a monitor was taken over during a schedule from a client that was still at work.
-/
def TakenOver (e : Engine) (ttl : Span) (st : State) (events : List Event) (monitor : Uuid) : Prop :=
  ∃ earlier ev st', earlier ++ [ev] <+: events ∧ play e ttl st earlier = some st' ∧ st'.TakesOver ev monitor

theorem coherent_play {e : Engine} (he : e.compound = .whole) {st st' : State} (h : ∀ T, Coherent T st)
    {events : List Event} (hplay : play e ttl st events = some st') :
    Coherent (TakenOver e ttl st events) st' := by
  induction events using List.reverseRecOn generalizing st' with
  | nil =>
    cases hplay
    exact h _
  | append_singleton events ev ih =>
    rw [play_concat, Option.bind_eq_some_iff] at hplay
    obtain ⟨st₀, hplay, hn⟩ := hplay
    apply ((ih hplay).step he hn).mono
    intro m hm
    rcases hm with ⟨earlier, ev', st₁, hpre, hearlier, htake⟩ | htake
    . exact ⟨earlier, ev', st₁, hpre.trans (List.prefix_append ..), hearlier, htake⟩
    . exact ⟨events, ev, st₀, List.prefix_rfl, hplay, htake⟩

/--
In every state that clients reach which record in one database, a monitor has at most one open interval exactly as long
as no interval was appended by a client that others had overtaken since its look at the latest one. Until a client's
lease is taken over while the client is at work, that does not happen.
-/
theorem one_open_iff (e : Engine) (he : e.compound = .whole) (ttl : Span) (monitors : Option (List MonitorRow))
    (users : Option Directory) (events : List Event) (st : State)
    (hplay : play e ttl (.start monitors users) events = some st) (monitor : Uuid) :
    (st.shared.store.openCount monitor ≤ 1 ↔ overtaken monitor st.shared.trace = false) ∧
    (¬ TakenOver e ttl (.start monitors users) events monitor → st.shared.store.openCount monitor ≤ 1) := by
  have hc := coherent_play he (fun T => .start T monitors users) hplay
  refine ⟨hc.sound.sole monitor, ?_⟩
  intro hnone
  rw [hc.sound.sole monitor, ← Bool.not_eq_true]
  intro hover
  exact hnone (hc.sound.blame monitor hover)

/--
A schedule in which client 0 rests after its look for the latest interval until its lease has run out. Client 1 takes
the lock over and opens an interval, and then client 0 opens one and closes none. The clock goes on at every step.
-/
def resting : List Event :=
  let record : Event := .begin { monitorId := some (.ofSerial 1), statusId := some (.ofSerial 2) }
  let call (i second : Nat) : Event :=
    .advance i (.served { id := .ofSerial second, now := .ofNanos (second * 1000000000) })
  [record, call 0 1, call 0 2, record, call 1 4, call 1 5, call 1 6, call 0 7]

theorem two_open_resting :
    (resting.filterMap (·.reading?)).Pairwise (· < ·) ∧
      (play {} (.ofSeconds 2) (.start (some [{ id := .ofSerial 1 }]) none) resting).map (·.shared.store.openCount (.ofSerial 1)) =
        some 2 := by
  decide +kernel

theorem one_open_iff_resting :
    let st := (play {} (.ofSeconds 2) (.start (some [{ id := .ofSerial 1 }]) none) resting).get (by decide +kernel)
    ¬ st.shared.store.openCount (.ofSerial 1) ≤ 1 ∧ overtaken (.ofSerial 1) st.shared.trace = true ∧
      TakenOver {} (.ofSeconds 2) (.start (some [{ id := .ofSerial 1 }]) none) resting (.ofSerial 1) := by
  intro st
  have hmany : ¬ st.shared.store.openCount (.ofSerial 1) ≤ 1 := by decide +kernel
  have h := one_open_iff {} rfl (.ofSeconds 2) (some [{ id := .ofSerial 1 }]) none resting st (Option.some_get _).symm (.ofSerial 1)
  refine ⟨hmany, ?_, ?_⟩
  . rw [← Bool.not_eq_false, ← h.1]
    exact hmany
  . apply Classical.byContradiction
    intro hnone
    exact hmany (h.2 hnone)

end Leasing

end StatusTimeline
