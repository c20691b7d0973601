import StatusTimeline.Proofs.Engine.Replica
import StatusTimeline.Proofs.Store.Thinning

/-!
This module contains deletions of several intervals of a monitor that are served one after another. From a timeline
without violations in which no two intervals start at once they all succeed in any order, and the order shows in none of
what they leave.
-/

namespace StatusTimeline

namespace Memory

/--
After the deletion of some intervals the store is thinned out by them, and the pointer is that of the last one created
of those that are left.
-/
structure Thinned (m : Memory) (monitor : Uuid) (gone : List Uuid) (m' : Memory) : Prop where
  idle : m'.locks.claims = []
  store : m.store.Thinned monitor gone m'.store
  pointer : gone ≠ [] → m'.board.current? monitor = (m'.store.history monitor).getLast?.map (·.statusId)
  others : ∀ M, M ≠ monitor → m'.board.current? M = m.board.current? M

variable {e : Engine} {m m' : Memory} {monitor : Uuid} {gone : List Uuid} {t i j : Interval}

/--
Deleting an interval that is not the only one of its monitor succeeds.
-/
theorem Sound.serve_delete_tidy (hm : m.Sound) (h : m.store.Tidy monitor) (he : e.compound = .whole) (stamp : Stamp)
    (ht : t ∈ m.store.history monitor) (hj : j ∈ m.store.history monitor) (hne : t.id ≠ j.id) :
    ∃ outcome m', Memory.serve e m stamp (.delete t.id) = (.ok outcome, m') ∧ m.Thinned monitor [t.id] m' := by
  have hmany := Store.one_lt_length_history ht hj hne
  obtain ⟨s', happ, hthin⟩ := h.applyDeletion ht
  obtain ⟨r, hr, rfl, hmonitor⟩ := Store.mem_history.1 ht
  -- the other interval is still there, so that the pointer is set anew
  obtain ⟨left, hleft, _⟩ := hthin.remains hj (by simpa using hne.symm)
  obtain ⟨last, hlast⟩ : ∃ last, (s'.history monitor).getLast? = some last :=
    ⟨_, List.getLast?_eq_some_getLast (List.ne_nil_of_mem hleft)⟩
  have hpointer : latestPointer s' monitor = some { monitorId := monitor, statusId := last.statusId } := by
    unfold latestPointer
    rw [hthin.tidy.wellFormed.latest?_eq, hlast]
    rfl
  have hfind : m.store.find? r.interval.id = some r := hm.wellFormed.find?_eq_some_iff.2 ⟨hr, rfl⟩
  have hserve : Memory.serve e m stamp (.delete r.interval.id) = _ := serve_delete_ok he hm.idle hfind
    (by rw [hmonitor, Store.length_history]; omega) (by rw [hmonitor]; exact happ)
  rw [hmonitor, hpointer] at hserve
  refine ⟨_, _, hserve, rfl, hthin, ?_, ?_⟩
  . intro _
    have hstatus : (s'.history monitor).getLast?.map (·.statusId) = some last.statusId := by
      rw [hlast]
      rfl
    exact (m.board.current?_set _ monitor).trans ((if_pos rfl).trans hstatus.symm)
  . intro M hM
    exact (m.board.current?_set _ M).trans (if_neg hM)

namespace Thinned

theorem start (hm : m.Sound) (h : m.store.Tidy monitor) : m.Thinned monitor [] m :=
  ⟨hm.idle, .start h, absurd rfl, fun _ _ => rfl⟩

/--
As long as another interval is left, one more can be deleted.
-/
theorem serve_delete (h : m.Thinned monitor gone m') (he : e.compound = .whole) (stamp : Stamp)
    (hi : i ∈ m.store.history monitor) (hid : i.id ∉ gone) (hj : j ∈ m.store.history monitor)
    (hjd : j.id ∉ gone ++ [i.id]) :
    ∃ outcome m'', serve e m' stamp (.delete i.id) = (.ok outcome, m'') ∧
      m.Thinned monitor (gone ++ [i.id]) m'' := by
  rw [List.mem_append, List.mem_singleton, not_or] at hjd
  obtain ⟨i', hi', hi'd⟩ := h.store.remains hi hid
  obtain ⟨j', hj', hj'd⟩ := h.store.remains hj hjd.1
  have hne : i'.id ≠ j'.id := by
    rw [hi'd, hj'd]
    exact Ne.symm hjd.2
  have hsound : m'.Sound := ⟨h.idle, h.store.tidy.wellFormed⟩
  obtain ⟨outcome, m'', hserve, hthin⟩ := hsound.serve_delete_tidy h.store.tidy he stamp hi' hj' hne
  rw [hi'd] at hserve hthin
  refine ⟨outcome, m'', hserve, hthin.idle, h.store.trans hthin.store, fun _ => hthin.pointer (by simp), ?_⟩
  intro M hM
  exact (hthin.others M hM).trans (h.others M hM)

end Thinned

/--
Deletions of different intervals of a monitor all succeed, as long as one that they spare is left.
-/
theorem Sound.deletions_thin (hm : m.Sound) (h : m.store.Tidy monitor) (he : e.compound = .whole) {turns : List Turn}
    (hgone : turns.map (·.request) = gone.map .delete) (hnodup : gone.Nodup)
    (hmem : ∀ id ∈ gone, ∃ i ∈ m.store.history monitor, i.id = id) (hj : j ∈ m.store.history monitor)
    (hjd : j.id ∉ gone) :
    (∀ x ∈ m.answers e turns, ∃ outcome, x.2 = .ok outcome) ∧ m.Thinned monitor gone (m.after e turns) := by
  induction gone using List.reverseRecOn generalizing turns with
  | nil =>
    rw [List.map_nil, List.map_eq_nil_iff] at hgone
    subst hgone
    exact ⟨by simp [answers], .start hm h⟩
  | append_singleton gone id ih =>
    rw [List.map_append, List.map_singleton, List.map_eq_append_iff] at hgone
    obtain ⟨earlier, last, rfl, hearlier, hlast⟩ := hgone
    obtain ⟨⟨request, stamp⟩, rfl, hrequest⟩ := List.map_eq_singleton_iff.1 hlast
    rw [List.nodup_append] at hnodup
    obtain ⟨hok, hthin⟩ := ih hearlier hnodup.1 (fun id hid => hmem id (by simp [hid])) (fun hid => hjd (by simp [hid]))
    obtain ⟨i, hi, rfl⟩ := hmem id (by simp)
    have hid : i.id ∉ gone := fun hid => hnodup.2.2 _ hid _ (by simp) rfl
    obtain ⟨outcome, m', hserve, hthin'⟩ := hthin.serve_delete he stamp hi hid hj hjd
    dsimp only at hrequest
    subst hrequest
    rw [after_append, answers_append]
    simp only [Memory.after, answers, hserve, List.forall_mem_append, List.forall_mem_singleton]
    exact ⟨⟨hok, outcome, rfl⟩, hthin'⟩

/--
A memory is sound, as all are that a run reaches, the timeline of a monitor has no violations, and no two of its
intervals start at once. Some of them, but not all, are deleted one after another. Whatever the order, each deletion
succeeds, and what is left are the others, each ending where the next one of them starts and the last one open, with the
pointer on the one that was created last. The other monitors keep what they have.
-/
theorem deletions_in_any_order (e : Engine) (he : e.compound = .whole) (m : Memory) (hm : m.Sound) (monitor : Uuid)
    (haudit : (audit (m.timeline monitor)).violations = [])
    (hstarts : ((m.timeline monitor).map (·.startsAt)).Nodup) (chosen : List Uuid) (hnodup : chosen.Nodup)
    (hne : chosen ≠ []) (hchosen : ∀ id ∈ chosen, ∃ i ∈ m.timeline monitor, i.id = id)
    (hleft : ∃ i ∈ m.timeline monitor, i.id ∉ chosen) :
    ∃ newest ∈ m.timeline monitor, newest.id ∉ chosen ∧
      (∀ i ∈ m.timeline monitor, i.id ∉ chosen → i.createdAt ≤ newest.createdAt) ∧
      ∀ order : List Uuid, order.Perm chosen →
        ∀ turns : List Turn, turns.map (·.request) = order.map .delete →
          (∀ x ∈ m.answers e turns, ∃ outcome, x.2 = .ok outcome) ∧
          (m.after e turns).timeline monitor =
            Interval.linked (·.startsAt) ((m.timeline monitor).filter (·.id ∉ chosen)) ∧
          (m.after e turns).board.current? monitor = some newest.statusId ∧
          ∀ M, M ≠ monitor → (m.after e turns).store.history M = m.store.history M ∧
            (m.after e turns).board.current? M = m.board.current? M := by
  have htidy : m.store.Tidy monitor := ⟨hm.wellFormed, (Row.audit_timeline_iff monitor m.store.rows).1 haudit, hstarts⟩
  have hmem : ∀ {i}, i ∈ m.timeline monitor ↔ i ∈ m.store.history monitor := Store.mem_timeline
  simp only [hmem] at hchosen hleft
  obtain ⟨left, hleft, hspared⟩ := hleft
  obtain ⟨newest, hnewest, hnid, hlast, hgreatest⟩ := hm.wellFormed.newest hleft hspared
  refine ⟨newest, hmem.2 hnewest, hnid, fun i hi => hgreatest i (hmem.1 hi), ?_⟩
  intro order hperm turns hturns
  have hgone : ∀ is : List Interval, is.filter (·.id ∉ order) = is.filter (·.id ∉ chosen) := by
    intro is
    simp only [hperm.mem_iff]
  obtain ⟨hok, hthin⟩ := hm.deletions_thin htidy he hturns (hperm.nodup_iff.2 hnodup)
    (fun id hid => hchosen id (hperm.mem_iff.1 hid)) hleft (fun hid => hspared (hperm.mem_iff.1 hid))
  have hpointer := hthin.pointer fun hnil => hne (by rwa [hnil, List.nil_perm] at hperm)
  rw [hthin.store.getLast?_statusId, hgone, hlast] at hpointer
  refine ⟨hok, ?_, hpointer, fun M hM => ⟨hthin.store.others M hM, hthin.others M hM⟩⟩
  rw [← hgone]
  exact hthin.store.timeline_eq

/--
A run in which the interval that is created first starts last. It is closed when the second one is created, and opened
again when the fourth one is deleted.
-/
def ahead : List Turn :=
  let record (serial : Nat) (start now : Int) : Turn := {
    request := .record {
      monitorId := some (.ofSerial 1)
      statusId := some (.ofSerial (serial + 10))
      startsAt := some (.ofNanos start) }
    stamp := { id := .ofSerial serial, now := .ofNanos now } }
  [record 11 10000 3000, record 12 1000 4000, record 13 5000 5000, record 14 20000 10000,
    { request := .delete (.ofSerial 14), stamp := { id := .ofSerial 15, now := .ofNanos 11000 } }]

def aheadSpan (serial : Nat) (createdAt start : Int) (endsAt : Option Int) : Interval where
  id := .ofSerial serial
  monitorId := .ofSerial 1
  statusId := .ofSerial (serial + 10)
  startsAt := .ofNanos start
  endsAt := endsAt.map .ofNanos
  createdAt := .ofNanos createdAt
  rootCause := none
  createdBy := none

theorem timeline_ahead :
    (after {} {} ahead).timeline (.ofSerial 1) =
      [aheadSpan 12 4000 1000 (some 5000), aheadSpan 13 5000 5000 (some 10000), aheadSpan 11 3000 10000 none] := by
  have hm : (after {} {} ahead).Sound := Sound.after rfl {} (by decide +kernel)
  apply (hm.wellFormed.timeline_inOrder (.ofSerial 1)).eq_of_perm (by decide)
  exact (Store.timeline_perm _ _).trans (by decide +kernel)

/--
Two of the three intervals go, in either order. The one that is left is open again.
-/
theorem deletions_in_any_order_ahead :
    let m := after {} {} ahead
    let deletion (serial : Nat) : Turn :=
      { request := .delete (.ofSerial serial), stamp := { id := .ofSerial 16, now := .ofNanos 12000 } }
    (audit (m.timeline (.ofSerial 1))).violations = [] ∧ ((m.timeline (.ofSerial 1)).map (·.startsAt)).Nodup ∧
      (m.after {} [deletion 11, deletion 13]).timeline (.ofSerial 1) = [aheadSpan 12 4000 1000 none] ∧
      (m.after {} [deletion 13, deletion 11]).timeline (.ofSerial 1) = [aheadSpan 12 4000 1000 none] ∧
      (m.after {} [deletion 11, deletion 13]).board.current? (.ofSerial 1) = some (.ofSerial 22) ∧
      (m.after {} [deletion 13, deletion 11]).board.current? (.ofSerial 1) = some (.ofSerial 22) := by
  intro m deletion
  have htimeline : m.timeline (.ofSerial 1) = _ := timeline_ahead
  have haudit : (audit (m.timeline (.ofSerial 1))).violations = [] := by
    apply (Row.audit_timeline_iff (.ofSerial 1) m.store.rows).2
    show Interval.Joined none (m.timeline (.ofSerial 1))
    rw [htimeline]
    exact ⟨rfl, rfl, rfl, trivial⟩
  have hstarts : ((m.timeline (.ofSerial 1)).map (·.startsAt)).Nodup := by
    rw [htimeline]
    decide
  obtain ⟨newest, hnewest, hspared, -, horders⟩ := deletions_in_any_order {} rfl m
    (Sound.after rfl {} (by decide +kernel)) (.ofSerial 1) haudit hstarts [.ofSerial 11, .ofSerial 13] (by decide)
    (by decide) (by rw [htimeline]; decide) (by rw [htimeline]; decide)
  have hstatus : newest.statusId = .ofSerial 22 := by
    rw [htimeline] at hnewest
    clear horders
    revert newest
    decide
  obtain ⟨_, hone, hpointer, _⟩ := horders [.ofSerial 11, .ofSerial 13] (.refl _) [deletion 11, deletion 13] rfl
  obtain ⟨_, hother, hpointer', _⟩ := horders [.ofSerial 13, .ofSerial 11] (.swap ..) [deletion 13, deletion 11] rfl
  rw [hstatus] at hpointer hpointer'
  rw [hone, hother, htimeline]
  exact ⟨htimeline ▸ haudit, htimeline ▸ hstarts, by decide, by decide, hpointer, hpointer'⟩

end Memory

end StatusTimeline
