import StatusTimeline.Proofs.Engine.Once
import StatusTimeline.Proofs.Leasing.Course
import StatusTimeline.Proofs.Leasing.State

/-!
This module contains what holds while clients record under leases: of what they share, and of each client at its stage
of the course. It is kept by all calls that leave the intervals as they are, and by an append of a client that has
looked the latest interval up.
-/

namespace StatusTimeline

namespace Leasing

open Interleaving (Client Entry Reply)

namespace Shared

def store (sh : Shared) : Store := sh.db.intervals.asStore

def owner? (sh : Shared) (monitor : Uuid) : Option Nat := sh.db.leases.owner? (Engine.lockKey monitor)

end Shared

variable {T T' : Uuid → Prop} {ttl : Span} {sh sh' : Shared} {i j : Nat} {monitor : Uuid} {how : Reply}

/--
A client has a token for its own lease, and the lease is still there unless there was a takeover.
-/
def Holds (T : Uuid → Prop) (sh : Shared) (i : Nat) (monitor : Uuid) (token : Token) : Prop :=
  token = { key := Engine.lockKey monitor, hold := .lease i } ∧ (T monitor ∨ sh.owner? monitor = some i)

theorem Holds.later {token : Token} (h : Holds T sh i monitor token) (hT : T monitor → T' monitor)
    (howner : sh'.owner? monitor = sh.owner? monitor) : Holds T' sh' i monitor token := by
  refine ⟨h.1, ?_⟩
  rw [howner]
  exact h.2.imp_left hT

/--
What holds while a client is at a stage of its course: what it has looked up was the latest interval then, and others
have appended since only if there was a takeover.
-/
def Stands (T : Uuid → Prop) (sh : Shared) (i : Nat) (monitor : Uuid) : Stage → Prop
  | .outside => True
  | .inside token => Holds T sh i monitor token
  | .looked token close => Holds T sh i monitor token ∧ ∃ olds news,
      sh.store.lineage monitor = olds ++ news ∧ close = olds.getLast? ∧
        stale i monitor sh.trace = !news.isEmpty ∧ (T monitor ∨ news = [])

/--
What always holds of what is shared. The latest interval of a monitor is open, and it is the only one until an overtaken
client appends, which takes a takeover.
-/
structure Sound (T : Uuid → Prop) (sh : Shared) : Prop where
  readable : sh.clock.isReadable = true
  tidy : sh.db.intervals.Tidy sh.clock
  lastOpen : ∀ monitor i, (sh.store.history monitor).getLast? = some i → i.isOpen = true
  sole : ∀ monitor, sh.store.openCount monitor ≤ 1 ↔ overtaken monitor sh.trace = false
  blame : ∀ monitor, overtaken monitor sh.trace = true → T monitor

theorem sound_start (T : Uuid → Prop) (monitors : Option (List MonitorRow)) (users : Option Directory) :
    Sound T (State.start monitors users).shared := by
  constructor
  . show (Instant.ofNanos 0).isReadable = true
    decide
  . exact .empty _
  . intro monitor i hi
    cases hi
  . intro monitor
    exact iff_of_true (Nat.zero_le 1) rfl
  . intro monitor h
    cases h

theorem stale_cons (en : Entry) (older : List Entry) (h : en.looks i monitor = false) :
    stale i monitor (en :: older) = (en.appends monitor || stale i monitor older) := by
  simp [stale, h]

theorem stale_append {ens : List Entry} (older : List Entry)
    (h : ∀ en ∈ ens, en.looks i monitor = false ∧ en.appends monitor = false) :
    stale i monitor (ens ++ older) = stale i monitor older := by
  induction ens with
  | nil => rfl
  | cons en ens ih =>
    obtain ⟨hlooks, happends⟩ := h en (by simp)
    rw [List.cons_append, stale_cons _ _ hlooks, happends, Bool.false_or]
    apply ih
    intro en' hen'
    exact h en' (by simp [hen'])

theorem overtaken_append {ens : List Entry} (older : List Entry) (h : ∀ en ∈ ens, en.appends monitor = false) :
    overtaken monitor (ens ++ older) = overtaken monitor older := by
  induction ens with
  | nil => rfl
  | cons en ens ih =>
    rw [List.cons_append, overtaken, h en (by simp), Bool.false_and, Bool.false_or]
    apply ih
    intro en' hen'
    exact h en' (by simp [hen'])

theorem looks_of_ne {en : Entry} (h : en.client ≠ i) : en.looks i monitor = false := by
  simp [Entry.looks, h]

/--
A client stands where it stood while others append, if what it holds is still its own.
-/
theorem Stands.kept {stage : Stage} (more : List Uuid) (h : Stands T sh i monitor stage)
    (hline : sh'.store.lineage monitor = sh.store.lineage monitor ++ more)
    (hstale : stale i monitor sh'.trace = (stale i monitor sh.trace || !more.isEmpty))
    (hheld : stage ≠ .outside → T monitor ∨ sh.owner? monitor = some i →
      (T' monitor ∨ sh'.owner? monitor = some i) ∧ (T' monitor ∨ more = []))
    (hT : T monitor → T' monitor) : Stands T' sh' i monitor stage := by
  cases stage with
  | outside => trivial
  | inside token => exact ⟨h.1, (hheld (by simp) h.2).1⟩
  | looked token close =>
    obtain ⟨hholds, olds, news, hsplit, hclose, hnews, hnone⟩ := h
    obtain ⟨howner, hmore⟩ := hheld (by simp) hholds.2
    refine ⟨⟨hholds.1, howner⟩, olds, news ++ more, ?_, hclose, ?_, ?_⟩
    . rw [hline, hsplit, List.append_assoc]
    . rw [hstale, hnews]
      cases news <;> cases more <;> rfl
    . rcases hmore with hmore | rfl
      . exact .inl hmore
      . rw [List.append_nil]
        exact hnone.imp_left hT

/--
The intervals stay as they are while the clock goes on and calls are noted that append nothing.
-/
structure Passes (ens : List Entry) (sh sh' : Shared) : Prop where
  intervals : sh'.db.intervals = sh.db.intervals
  clock : sh'.clock.isReadable = true ∧ sh.clock ≤ sh'.clock
  trace : sh'.trace = ens ++ sh.trace
  appends : ∀ en ∈ ens, ∀ monitor, en.appends monitor = false

namespace Passes

variable {ens : List Entry}

theorem store_eq (h : Passes ens sh sh') : sh'.store = sh.store := by
  unfold Shared.store
  rw [h.intervals]

theorem sound (h : Passes ens sh sh') (hs : Sound T sh) (hT : ∀ m, T m → T' m) : Sound T' sh' := by
  have hover : ∀ monitor, overtaken monitor sh'.trace = overtaken monitor sh.trace := by
    intro monitor
    rw [h.trace]
    exact overtaken_append _ fun en hen => h.appends en hen monitor
  refine ⟨h.clock.1, ?_, ?_, ?_, ?_⟩
  . rw [h.intervals]
    exact hs.tidy.later (Instant.isReadable_not_leap hs.readable) (Instant.isReadable_not_leap h.clock.1) h.clock.2
  . rw [h.store_eq]
    exact hs.lastOpen
  . intro monitor
    rw [h.store_eq, hover]
    exact hs.sole monitor
  . intro monitor hm
    rw [hover] at hm
    exact hT monitor (hs.blame monitor hm)

theorem stands (h : Passes ens sh sh') (hlooks : ∀ en ∈ ens, en.looks i monitor = false) {stage : Stage}
    (hs : Stands T sh i monitor stage) (hT : T monitor → T' monitor)
    (howner : stage ≠ .outside → sh.owner? monitor = some i → T' monitor ∨ sh'.owner? monitor = some i) :
    Stands T' sh' i monitor stage := by
  apply Stands.kept [] hs
  . rw [h.store_eq, List.append_nil]
  . rw [h.trace, stale_append _ fun en hen => ⟨hlooks en hen, h.appends en hen monitor⟩]
    simp
  . intro hstage hheld
    refine ⟨?_, .inr rfl⟩
    rcases hheld with hm | hm
    . exact .inl (hT hm)
    . exact howner hstage hm
  . exact hT

end Passes

/--
An interval is appended by a client, and nothing else changes but the clock.
-/
structure Appends (i : Nat) (stamp : Stamp) (new : NewInterval) (close : Option Uuid) (sh sh' : Shared) : Prop where
  reads : sh.reads stamp.now = true
  fresh : sh.db.intervals.contains stamp.id = false
  done : ∃ created, sh.db.intervals.append stamp new close = (.ok created, sh'.db.intervals)
  leases : sh'.db.leases = sh.db.leases
  clock : sh'.clock = stamp.now
  trace : ∃ en, sh'.trace = en :: sh.trace ∧ en.client = i ∧ (∀ m, en.appends m = decide (new.monitorId = m)) ∧
    ∀ j m, en.looks j m = false

namespace Appends

variable {stamp : Stamp} {new : NewInterval} {close : Option Uuid} {token : Token}

theorem lineage (h : Appends i stamp new close sh sh') (m : Uuid) :
    sh'.store.lineage m = sh.store.lineage m ++ if new.monitorId = m then [stamp.id] else [] := by
  obtain ⟨created, happ⟩ := h.done
  obtain ⟨s', happ', hhist⟩ := Table.append_asStore happ
  have hline : sh'.store.lineage m = s'.lineage m := congrArg (List.map Interval.id) (hhist m)
  rw [hline, Store.lineage_append happ']
  rfl

theorem tidy (h : Appends i stamp new close sh sh') (hs : Sound T sh) :
    sh.db.intervals.Tidy stamp.now ∧ sh'.db.intervals.Tidy sh'.clock := by
  have hreads := h.reads
  simp only [Shared.reads, Bool.and_eq_true, decide_eq_true_eq] at hreads
  have htidy := hs.tidy.later (Instant.isReadable_not_leap hs.readable) (Instant.isReadable_not_leap hreads.2) hreads.1
  obtain ⟨created, happ⟩ := h.done
  rw [h.clock]
  exact ⟨htidy, htidy.append h.fresh happ⟩

theorem close_mem (h : Appends i stamp new close sh sh') (hs : Sound T sh)
    (hst : Stands T sh i new.monitorId (.looked token close)) :
    close ≠ some stamp.id ∧ ∀ m, m ≠ new.monitorId → ∀ j ∈ sh.store.history m, close ≠ some j.id := by
  obtain ⟨_, olds, news, hsplit, hclose, _⟩ := hst
  have hmem : ∀ id, close = some id → ∃ j ∈ sh.store.history new.monitorId, j.id = id := by
    intro id hid
    have : id ∈ sh.store.lineage new.monitorId := by
      rw [hsplit]
      exact List.mem_append_left _ (List.mem_of_getLast? (hclose ▸ hid))
    exact List.mem_map.1 this
  constructor
  . intro hid
    obtain ⟨j, hj, hjid⟩ := hmem _ hid
    have hstored : sh.store.contains stamp.id = true := hjid ▸ Store.contains_of_mem hj
    rw [show sh.store.contains stamp.id = false from h.fresh] at hstored
    cases hstored
  . intro m hm j hj hid
    obtain ⟨k, hk, hkid⟩ := hmem _ hid
    obtain ⟨a, ha, rfl, hma⟩ := Store.mem_history.1 hj
    obtain ⟨b, hb, rfl, hmb⟩ := Store.mem_history.1 hk
    rw [hs.tidy.eq_of_id hb ha hkid] at hmb
    exact hm (hma.symm.trans hmb)

theorem overtaken_eq (h : Appends i stamp new close sh sh') (m : Uuid) : overtaken m sh'.trace =
    (decide (new.monitorId = m) && stale i m sh.trace || overtaken m sh.trace) := by
  obtain ⟨en, htrace, hclient, happends, _⟩ := h.trace
  rw [htrace, overtaken, happends, hclient]

theorem history_last (h : Appends i stamp new close sh sh') (hs : Sound T sh)
    (hst : Stands T sh i new.monitorId (.looked token close)) :
    ∃ is created, sh'.store.history new.monitorId = is ++ [created] ∧ created.isOpen = true := by
  obtain ⟨created, happ⟩ := h.done
  obtain ⟨is, hhist, hopen⟩ := Table.history_append happ (h.close_mem hs hst).1
  exact ⟨is, created, hhist, hopen⟩

theorem history_of_ne (h : Appends i stamp new close sh sh') (hs : Sound T sh)
    (hst : Stands T sh i new.monitorId (.looked token close)) {m : Uuid} (hm : m ≠ new.monitorId) :
    sh'.store.history m = sh.store.history m := by
  obtain ⟨created, happ⟩ := h.done
  exact Table.history_append_of_ne happ hm ((h.close_mem hs hst).2 m hm)

theorem sole (h : Appends i stamp new close sh sh') (hs : Sound T sh)
    (hst : Stands T sh i new.monitorId (.looked token close)) :
    sh'.store.openCount new.monitorId ≤ 1 ↔ overtaken new.monitorId sh'.trace = false := by
  obtain ⟨created, happ⟩ := h.done
  obtain ⟨_, olds, news, hsplit, hclose, hstale, _⟩ := hst
  obtain ⟨as, bs, hhist, rfl, rfl⟩ := List.map_eq_append_iff.1 hsplit
  have hprior : ∀ j, as.getLast? = some j → j ∈ sh.db.intervals.asStore.history new.monitorId := by
    intro j hj
    rw [show sh.db.intervals.asStore.history new.monitorId = as ++ bs from hhist]
    exact List.mem_append_left _ (List.mem_of_getLast? hj)
  rw [hclose, List.getLast?_map] at happ
  have hcount := (h.tidy hs).1.openCount_append h.fresh happ hprior
  have hopen : sh.store.openCount new.monitorId = (as ++ bs).countP (·.isOpen) := by
    rw [Store.openCount, hhist]
  have hiff := Interval.count_le_one_iff (hhist ▸ hs.lastOpen new.monitorId) (hcount.trans (congrArg (· + 1) hopen))
  rw [h.overtaken_eq, show sh'.store.openCount new.monitorId ≤ 1 ↔ _ from hiff, ← hopen, hs.sole, hstale]
  cases bs <;> simp

theorem sound (h : Appends i stamp new close sh sh') (hs : Sound T sh)
    (hst : Stands T sh i new.monitorId (.looked token close)) (hT : ∀ m, T m → T' m) : Sound T' sh' := by
  have hreads := h.reads
  simp only [Shared.reads, Bool.and_eq_true, decide_eq_true_eq] at hreads
  refine ⟨h.clock ▸ hreads.2, (h.tidy hs).2, ?_, ?_, ?_⟩
  . intro m j hj
    by_cases hm : m = new.monitorId
    . subst hm
      obtain ⟨is, created, hhist, hopen⟩ := h.history_last hs hst
      rw [hhist, List.getLast?_concat] at hj
      cases hj
      exact hopen
    . rw [h.history_of_ne hs hst hm] at hj
      exact hs.lastOpen m j hj
  . intro m
    by_cases hm : m = new.monitorId
    . rw [hm]
      exact h.sole hs hst
    . rw [h.overtaken_eq, Store.openCount_congr (h.history_of_ne hs hst hm), hs.sole m]
      simp [Ne.symm hm]
  . intro m hm
    rw [h.overtaken_eq, Bool.or_eq_true, Bool.and_eq_true, decide_eq_true_eq] at hm
    rcases hm with ⟨rfl, hm⟩ | hm
    . -- others have appended since the look
      obtain ⟨_, olds, news, _, _, hstale, hnone⟩ := hst
      rcases hnone with hnone | rfl
      . exact hT _ hnone
      . rw [hstale] at hm
        cases hm
    . exact hT m (hs.blame m hm)

theorem owner?_eq (h : Appends i stamp new close sh sh') (m : Uuid) : sh'.owner? m = sh.owner? m := by
  unfold Shared.owner?
  rw [h.leases]

theorem own (h : Appends i stamp new close sh sh') (hst : Stands T sh i new.monitorId (.looked token close))
    (hT : ∀ m, T m → T' m) : Stands T' sh' i new.monitorId (.inside token) :=
  hst.1.later (hT _) (h.owner?_eq _)

theorem others (h : Appends i stamp new close sh sh') (hst : Stands T sh i new.monitorId (.looked token close))
    (hT : ∀ m, T m → T' m) (hji : j ≠ i) {stage : Stage} (hj : Stands T sh j monitor stage) :
    Stands T' sh' j monitor stage := by
  obtain ⟨en, htrace, hclient, happends, hlooks⟩ := h.trace
  apply Stands.kept (if new.monitorId = monitor then [stamp.id] else []) hj (h.lineage monitor) _ _ (hT monitor)
  . rw [htrace, stale_cons _ _ (hlooks j monitor), happends]
    by_cases hm : new.monitorId = monitor <;> simp [hm]
  . intro _ hheld
    rw [h.owner?_eq]
    refine ⟨hheld.imp_left (hT monitor), ?_⟩
    by_cases hm : new.monitorId = monitor
    . -- two clients have the lock of one monitor
      left
      subst hm
      rcases hheld, hst.1.2 with ⟨hheld | hheld, hown | hown⟩
      . exact hT _ hheld
      . exact hT _ hheld
      . exact hT _ hown
      . rw [hheld] at hown
        exact absurd (Option.some.inj hown) hji
    . simp [hm]

end Appends

end Leasing

end StatusTimeline
