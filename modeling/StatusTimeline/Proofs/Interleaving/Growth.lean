import StatusTimeline.Proofs.Engine.Chain
import StatusTimeline.Proofs.Engine.Locking
import StatusTimeline.Proofs.Interleaving.Extends
import StatusTimeline.Proofs.Store.Lineage

/-!
This module contains interleavings in which nothing is taken away and all intervals that are opened start at their
creation. However the calls of the clients interleave, a timeline only grows, and only at its end.
-/

namespace StatusTimeline

namespace Call

/--
Whether a call takes no interval away, and leaves the start of one that it opens to the store.
-/
def Adds : Call → Prop
  | store (.append new _) => new.startsAt = none
  | store c => c.isRead = true
  | _ => True

theorem adds_of_isRead {c : StoreCall} (h : c.isRead = true) : (store c).Adds := by
  cases c <;> first | exact h | cases h

end Call

namespace Operation

theorem adds_read {c : StoreCall} (h : c.isRead = true) : Confined Call.Adds c.perform :=
  confined_call (Call.adds_of_isRead h)

theorem Looks.adds {α : Type} {x : Operation α} (h : x.Looks) : x.Confined Call.Adds := by
  apply Program.Confined.mono h
  intro c hc
  cases c with
  | store c => exact Call.adds_of_isRead hc.2
  | _ => trivial

end Operation

namespace Engine

open Operation

variable {e : Engine}

theorem adds_succeed (he : e.compound = .whole) {new : NewInterval} (hn : new.startsAt = none) :
    (e.succeed new).Confined Call.Adds := by
  have hset : ∀ update, Confined Call.Adds (Call.setPointer update).perform := fun _ => confined_call trivial
  unfold succeed
  apply confined_bind (adds_read rfl)
  intro prior
  apply confined_bind
  . unfold append
    rw [he]
    exact confined_call hn
  . intro interval
    exact confined_bind (hset _) fun _ => confined_pure _

theorem adds_record (he : e.compound = .whole) {r : ChangeRequest} (hr : r.startsAt = none) :
    (e.record r).Confined Call.Adds := by
  unfold record
  split
  . split
    . next monitor _ status _ =>
      apply confined_locked trivial (fun _ => trivial)
      rw [recordLocked_eq]
      apply confined_bind (e.looks_rootCause r).adds
      intro rootCause
      exact adds_succeed he hr
    . exact confined_throw _
  . exact confined_throw _

end Engine

theorem Request.adds_operation {e : Engine} (he : e.compound = .whole) {r : Request} (hkept : ¬ r.Removes)
    (hnow : r.StartsNow) : (r.operation e).Confined Call.Adds := by
  cases r with
  | record r => exact Engine.adds_record he hnow
  | delete id => exact absurd trivial hkept
  | get id => exact (Engine.looks_get id).adds
  | current monitor => exact Operation.adds_read rfl
  | timeline monitor => exact Operation.adds_read rfl
  | audit monitor => exact Operation.confined_bind (Operation.adds_read rfl) fun _ => Operation.confined_pure _
  | purge cutoff => exact absurd trivial hkept

namespace Store

variable {s : Store} {monitor : Uuid} {stamp : Stamp} {new : NewInterval} {close : Option Uuid}

theorem lineage_append_prefix (s : Store) (stamp : Stamp) (new : NewInterval) (close : Option Uuid) (monitor : Uuid) :
    s.lineage monitor <+: (s.append stamp new close).2.lineage monitor := by
  rcases happ : s.append stamp new close with ⟨_ | created, s'⟩
  . cases close with
    | none => cases happ
    | some prior =>
      simp only [append] at happ
      split at happ
      . cases happ
      . cases happ
        exact List.prefix_refl _
  . rw [lineage_append happ]
    exact List.prefix_append _ _

/--
The intervals of one monitor start at their creation.
-/
def Timely (s : Store) (monitor : Uuid) : Prop := ∀ i ∈ s.history monitor, i.startsAt = i.createdAt

namespace Timely

theorem insert (h : s.Timely monitor) (hn : new.startsAt = none) : (s.insert stamp new).2.Timely monitor := by
  intro i hi
  rw [history_insert, List.mem_append] at hi
  rcases hi with hi | hi
  . exact h i hi
  . split at hi
    . rw [List.mem_singleton.1 hi]
      simp [Store.insert, NewInterval.materialise, hn]
    . cases hi

theorem setEnd (h : s.Timely monitor) (id : Uuid) (e : Option Instant) : (s.setEnd id e).Timely monitor := by
  intro i hi
  rw [history_setEnd, List.mem_map] at hi
  obtain ⟨j, hj, rfl⟩ := hi
  have hstart := h j hj
  unfold Interval.endAt
  split <;> exact hstart

theorem append (h : s.Timely monitor) (hn : new.startsAt = none) :
    (s.append stamp new close).2.Timely monitor := by
  cases close with
  | none => exact h.insert hn
  | some prior =>
    simp only [Store.append]
    split
    . exact (h.insert hn).setEnd _ _
    . exact h

/--
Intervals that start at their creation are in the order of their insertion.
-/
theorem timeline_eq (h : s.Timely monitor) (hw : s.WellFormed) : Row.timeline monitor s.rows = s.history monitor := by
  apply (hw.timeline_inOrder monitor).eq_of_perm _ (s.timeline_perm monitor)
  unfold Interval.InOrder
  have hrecency : (s.history monitor).Pairwise fun i j => i.createdAt < j.createdAt :=
    List.pairwise_map.2 (hw.recency monitor)
  apply List.Pairwise.imp_of_mem _ hrecency
  intro i j hi hj hij
  left
  rw [h i hi, h j hj]
  exact hij

end Timely

end Store

namespace Interleaving

/--
Whether the event does not begin a request that takes intervals away or chooses the start of the one that it opens.
-/
def Event.Adds : Event → Prop
  | begin request => ¬ request.Removes ∧ request.StartsNow
  | _ => True

instance : (ev : Event) → Decidable ev.Adds
  | .begin request => inferInstanceAs (Decidable (¬ request.Removes ∧ request.StartsNow))
  | .advance _ _ => .isTrue trivial
  | .cancel _ => .isTrue trivial

namespace Shared

/--
Each monitor has the intervals that it had, and perhaps others after them.
-/
structure Grows (sh sh' : Shared) : Prop where
  lineage : ∀ M, sh.memory.store.lineage M <+: sh'.memory.store.lineage M
  timely : ∀ M, sh.memory.store.Timely M → sh'.memory.store.Timely M

variable {sh sh' sh'' : Shared} {i : Nat} {how : Reply}

namespace Grows

theorem of_store (h : sh'.memory.store = sh.memory.store) : Grows sh sh' := by
  constructor
  . intro M
    exact ⟨[], by rw [List.append_nil, h]⟩
  . intro M hM
    rw [h]
    exact hM

theorem trans (h : Grows sh sh') (h' : Grows sh' sh'') : Grows sh sh'' :=
  ⟨fun M => (h.lineage M).trans (h'.lineage M), fun M hM => h'.timely M (h.timely M hM)⟩

end Grows

theorem reply_grows (h : sh.Sane) {c : Call} (hc : c.Adds) {answer : Except Error c.Answer}
    (hreply : sh.reply i how c = some (answer, sh')) : sh'.Sane ∧ Grows sh sh' := by
  cases c with
  | store c =>
    obtain ⟨stamp, store, -, hans, hd, rfl⟩ := reply_store hreply
    have hsane := h.stored hd
    rw [hans] at hsane
    refine ⟨hsane.note _, ?_⟩
    by_cases hread : c.isRead = true
    . have hsame : (sh.memory.store.answer stamp c).2 = sh.memory.store := StoreCall.answer_of_isRead hread
      rw [hans] at hsame
      exact .of_store hsame
    . cases c with
      | append new close =>
        have happ : (sh.memory.store.append stamp new close).2 = store := congrArg Prod.snd hans
        constructor
        . intro M
          show sh.memory.store.lineage M <+: store.lineage M
          rw [← happ]
          exact Store.lineage_append_prefix ..
        . intro M hM
          show store.Timely M
          rw [← happ]
          exact hM.append hc
      | _ => exact absurd hc hread
  | setPointer update =>
    obtain ⟨-, rfl⟩ := reply_setPointer hreply
    exact ⟨(h.set _).note _, .of_store rfl⟩
  | resolve user =>
    obtain ⟨-, rfl⟩ := reply_resolve hreply
    exact ⟨h.note _, .of_store rfl⟩
  | lock key =>
    rcases reply_lock hreply with ⟨_, _, _, hfree, rfl⟩ | ⟨_, _, rfl⟩
    . exact ⟨(h.hold hfree i).note _, .of_store rfl⟩
    . exact ⟨h.note _, .of_store rfl⟩
  | release token =>
    obtain ⟨-, rfl⟩ := reply_release hreply
    exact ⟨(h.free _ i).note _, .of_store rfl⟩

end Shared

namespace State

/--
Whatever the clients are still to do, they take nothing away.
-/
structure Adding (s : State) : Prop where
  sane : s.shared.Sane
  adds : ∀ i c, s.client? i = some c → c.rest.Confined Call.Adds

theorem adding_start {m : Memory} (h : m.store.WellFormed) : (State.start m).Adding := by
  constructor
  . refine ⟨h, ?_, List.Pairwise.nil⟩
    intro r hr
    exact List.mem_map.2 ⟨r, hr, rfl⟩
  . intro i c hc
    cases hc

namespace Adding

variable {e : Engine} {s s' : State}

theorem next (h : s.Adding) (he : e.compound = .whole) {ev : Event} (hev : ev.Adds)
    (hn : Interleaving.next e s ev = some s') : s'.Adding ∧ s.shared.Grows s'.shared := by
  cases ev with
  | begin request =>
    cases hn
    refine ⟨⟨h.sane, ?_⟩, .of_store rfl⟩
    intro i c hc
    rw [client?_concat] at hc
    split at hc
    . cases hc
      exact Request.adds_operation he hev.1 hev.2
    . exact h.adds i c hc
  | advance i how =>
    simp only [Interleaving.next] at hn
    split at hn
    . next request call next after hclient =>
      rw [Option.map_eq_some_iff] at hn
      obtain ⟨⟨answer, shared⟩, hreply, rfl⟩ := hn
      have hrest := h.adds i _ hclient
      obtain ⟨hsane, hgrows⟩ := Shared.reply_grows h.sane hrest.1 hreply
      refine ⟨⟨hsane, ?_⟩, hgrows⟩
      intro j c hc
      rw [client?_set (client?_lt hclient)] at hc
      split at hc
      . cases hc
        exact hrest.2 answer
      . exact h.adds j c hc
    . cases hn
  | cancel i =>
    simp only [Interleaving.next] at hn
    split at hn
    . next hclient =>
      cases hn
      refine ⟨⟨h.sane.freeAll i, ?_⟩, .of_store rfl⟩
      intro j c hc
      rw [client?_set (client?_lt hclient)] at hc
      split at hc
      . cases hc
      . exact h.adds j c hc
    . cases hn

theorem play (h : s.Adding) (he : e.compound = .whole) {evs : List Event} (hadds : ∀ ev ∈ evs, ev.Adds)
    (hplay : Interleaving.play e s evs = some s') : s'.Adding ∧ s.shared.Grows s'.shared := by
  induction evs generalizing s with
  | nil =>
    cases hplay
    exact ⟨h, .of_store rfl⟩
  | cons ev evs ih =>
    rw [Interleaving.play, Option.bind_eq_some_iff] at hplay
    obtain ⟨s₁, hn, hplay⟩ := hplay
    obtain ⟨h₁, hgrows⟩ := h.next he (hadds ev List.mem_cons_self) hn
    obtain ⟨h', hgrows'⟩ := ih h₁ (fun ev hev => hadds ev (List.mem_cons_of_mem _ hev)) hplay
    exact ⟨h', hgrows.trans hgrows'⟩

end Adding

end State

end Interleaving

end StatusTimeline
