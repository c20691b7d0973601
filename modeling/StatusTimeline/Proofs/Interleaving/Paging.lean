import StatusTimeline.Http.Router
import StatusTimeline.Page
import StatusTimeline.Proofs.Engine.Undoing
import StatusTimeline.Proofs.Interleaving.Growth

/-!
This module contains the reading of a timeline page by page, while clients go on with recording. As the timeline only
grows at its end, the pages hold each of its intervals once.
-/

namespace StatusTimeline

namespace Memory

/--
The page of a monitor's timeline that the engine answers a query with.
-/
def page (e : Engine) (m : Memory) (stamp : Stamp) (monitor : Uuid) (q : PageQuery) : Except Error (List Interval) :=
  (serve e m stamp (.timeline monitor)).1.map q.page

/--
All queries for pages of a monitor's timeline are answered, over HTTP too. A negative offset leaves nothing out, and a
negative limit lets nothing through.
-/
structure Pageable (e : Engine) (m : Memory) (monitor : Uuid) : Prop where
  answered : ∀ stamp q, ∃ page, m.page e stamp monitor q = .ok page
  negativeOffset : ∀ stamp limit offset, offset < 0 →
    m.page e stamp monitor { limit, offset := some offset } = m.page e stamp monitor { limit, offset := some 0 }
  negativeLimit : ∀ stamp limit offset, limit < 0 → m.page e stamp monitor { limit := some limit, offset } = .ok []
  overHttp : ∀ stamp query q page, Http.pageQuery? (query.getD "") = some q → m.page e stamp monitor q = .ok page →
    (Http.listTimeline monitor query).run (fun m c => m.answer stamp c) m =
      ({ status := 200, body := some (.arr (page.map Interval.toJson)) }, m)

theorem page_eq (e : Engine) (m : Memory) (stamp : Stamp) (monitor : Uuid) (q : PageQuery) :
    m.page e stamp monitor q = .ok (q.page (m.timeline monitor)) := rfl

theorem pageable (e : Engine) (m : Memory) (monitor : Uuid) : m.Pageable e monitor where
  answered := fun stamp q => ⟨_, m.page_eq e stamp monitor q⟩
  negativeOffset := by
    intro stamp limit offset hneg
    have hzero : offset.toNat = (0 : Int).toNat := by omega
    simp only [page_eq, PageQuery.page, Option.getD_some, hzero]
  negativeLimit := by
    intro stamp limit offset hneg
    have hzero : limit.toNat = 0 := by omega
    simp only [page_eq, PageQuery.page, hzero, List.take_zero]
  overHttp := by
    intro stamp query q page hquery hpage
    cases hpage
    simp only [Http.listTimeline, hquery]
    rfl

end Memory

namespace Interleaving

/--
A client reads the pages of a monitor's timeline from an offset on, until one is not full. Between two pages events
happen that take nothing away. The reading goes from a state and an offset to the pages and the state at the last one.
-/
inductive Reads (e : Engine) (monitor : Uuid) (n : Nat) : State → Nat → List (List Interval) → State → Prop where
  | last {s : State} {k : Nat} {stamp : Stamp} {page : List Interval}
      (hpage : s.shared.memory.page e stamp monitor { limit := some n, offset := some k } = .ok page)
      (hshort : page.length < n) : Reads e monitor n s k [page] s
  | more {s s' t : State} {k : Nat} {stamp : Stamp} {page : List Interval} {evs : List Event}
      {pages : List (List Interval)}
      (hpage : s.shared.memory.page e stamp monitor { limit := some n, offset := some k } = .ok page)
      (hfull : n ≤ page.length) (hadds : ∀ ev ∈ evs, ev.Adds) (hplay : play e s evs = some s')
      (hrest : Reads e monitor n s' (k + n) pages t) : Reads e monitor n s k (page :: pages) t

variable {e : Engine} {monitor : Uuid} {n k : Nat} {s t : State} {pages : List (List Interval)}

section Windows

variable {α : Type} {xs ys : List α}

theorem page_nat (xs : List α) (n k : Nat) :
    PageQuery.page { limit := some n, offset := some k } xs = (xs.drop k).take n := rfl

/--
A page that is not full holds all that there is from its offset on.
-/
theorem window_of_short (hshort : ((xs.drop k).take n).length < n) : (xs.drop k).take n = xs.drop k := by
  rw [List.length_take] at hshort
  apply List.take_of_length_le
  omega

/--
A full page stays what it is while the list grows at its end, and the next page comes right after it.
-/
theorem window_of_full (hn : 1 ≤ n) (hfull : n ≤ ((xs.drop k).take n).length) (hfront : xs <+: ys) :
    (xs.drop k).take n ++ ys.drop (k + n) = ys.drop k := by
  obtain ⟨more, rfl⟩ := hfront
  rw [List.length_take, List.length_drop] at hfull
  have hsame : (xs.drop k).take n = ((xs ++ more).drop k).take n := by
    rw [List.drop_append_of_le_length (by omega), List.take_append_of_le_length]
    rw [List.length_drop]
    omega
  rw [hsame, ← List.drop_drop, List.take_append_drop]

end Windows

namespace State.Adding

/--
Where intervals start at their creation, a page holds a window of them in the order of their insertion.
-/
theorem map_page (h : s.Adding) (htimely : s.shared.memory.store.Timely monitor) {stamp : Stamp} {page : List Interval}
    (hpage : s.shared.memory.page e stamp monitor { limit := some n, offset := some k } = .ok page) :
    page.map (·.id) = ((s.shared.memory.store.lineage monitor).drop k).take n := by
  rw [Memory.page_eq, page_nat] at hpage
  cases hpage
  unfold Memory.timeline Store.lineage
  rw [htimely.timeline_eq h.sane.wellFormed, List.map_take, List.map_drop]

end State.Adding

/--
What has been read from an offset on is what there is from there on at the last page.
-/
theorem Reads.flatten (hreads : Reads e monitor n s k pages t) (he : e.compound = .whole) (hn : 1 ≤ n) (h : s.Adding)
    (htimely : s.shared.memory.store.Timely monitor) :
    t.Adding ∧ s.shared.Grows t.shared ∧
      pages.flatten.map (·.id) = (t.shared.memory.store.lineage monitor).drop k := by
  induction hreads with
  | @last s k stamp page hpage hshort =>
    refine ⟨h, .of_store rfl, ?_⟩
    have hids := h.map_page htimely hpage
    rw [← List.length_map (f := (·.id)), hids] at hshort
    rw [List.flatten_singleton, hids, window_of_short hshort]
  | @more s s' t k stamp page evs pages hpage hfull hadds hplay hrest ih =>
    obtain ⟨h', hgrows⟩ := h.play he hadds hplay
    obtain ⟨ht, hgrows', hflatten⟩ := ih h' (hgrows.timely monitor htimely)
    have hall := hgrows.trans hgrows'
    refine ⟨ht, hall, ?_⟩
    have hids := h.map_page htimely hpage
    rw [← List.length_map (f := (·.id)), hids] at hfull
    rw [List.flatten_cons, List.map_append, hids, hflatten, window_of_full hn hfull (hall.lineage monitor)]

/--
A reading can always be ended, if clients pause for it.
-/
theorem exists_reads (e : Engine) (monitor : Uuid) (hn : 1 ≤ n) (s : State) (k : Nat) :
    ∃ pages, Reads e monitor n s k pages s := by
  have hpage := s.shared.memory.page_eq e default monitor { limit := some n, offset := some k }
  rw [page_nat] at hpage
  by_cases hshort : (((s.shared.memory.timeline monitor).drop k).take n).length < n
  . exact ⟨_, .last hpage hshort⟩
  . have hfull := Nat.not_lt.1 hshort
    obtain ⟨pages, hrest⟩ := exists_reads e monitor hn s (k + n)
    exact ⟨_, .more hpage hfull (List.forall_mem_nil _) rfl hrest⟩
termination_by (s.shared.memory.timeline monitor).length - k
decreasing_by
  rw [List.length_take, List.length_drop] at hfull
  omega

/--
However many records without a start of their own come in while a timeline is read page by page, the pages hold what the
timeline holds at the last one, in its order, if the intervals that were there before start at their creation.
-/
theorem pages_flatten_eq (he : e.compound = .whole) (hn : 1 ≤ n) {m : Memory} (hm : m.Reached)
    (hstarts : ∀ i ∈ m.timeline monitor, i.startsAt = i.createdAt) {evs : List Event} (hadds : ∀ ev ∈ evs, ev.Adds)
    (hplay : play e (.start m) evs = some s) :
    (∃ pages, Reads e monitor n s 0 pages s) ∧
      (∀ pages t, Reads e monitor n s 0 pages t →
        pages.flatten.map (·.id) = (t.shared.memory.timeline monitor).map (·.id)) ∧
      ∀ m' : Memory, m'.Pageable e monitor := by
  refine ⟨exists_reads e monitor hn s 0, ?_, fun m' => m'.pageable e monitor⟩
  intro pages t hreads
  have htimely : m.store.Timely monitor := fun i hi => hstarts i (Store.mem_timeline.2 hi)
  obtain ⟨hs, hgrows⟩ := (State.adding_start hm.wellFormed).play he hadds hplay
  have htimely := hgrows.timely monitor htimely
  obtain ⟨ht, hgrows, hflatten⟩ := hreads.flatten he hn hs htimely
  have htimely := hgrows.timely monitor htimely
  rw [hflatten, Memory.timeline, htimely.timeline_eq ht.sane.wellFormed]
  rfl

/--
A third interval is recorded between the first page of two and the second one, and another monitor's, too, while the
clock goes back.
-/
theorem pages_flatten_eq_recording :
    let record (monitor : Nat) : Event :=
      .begin (.record { monitorId := some (.ofSerial monitor), statusId := some (.ofSerial 2) })
    let call (i id : Nat) (now : Int) : Event := .advance i (.served { id := .ofSerial id, now := .ofNanos now })
    let before := record 1 :: List.replicate 5 (call 0 11 2000) ++ record 1 :: List.replicate 5 (call 1 12 1000)
    let between := [record 1, record 3] ++ List.replicate 5 (call 3 13 500) ++ List.replicate 5 (call 2 14 900)
    let s := (play {} (.start {}) before).get (by decide +kernel)
    let t := (play {} s between).get (by decide +kernel)
    ∃ page pages, Reads {} (.ofSerial 1) 2 s 0 (page :: pages) t ∧
      (page ++ pages.flatten).map (·.id) = (t.shared.memory.timeline (.ofSerial 1)).map (·.id) := by
  intro record call before between s t
  have hfull : 2 ≤ (((s.shared.memory.timeline (.ofSerial 1)).drop 0).take 2).length := by
    rw [List.length_take, List.length_drop, Memory.timeline, Row.timeline, List.length_map, List.length_mergeSort]
    decide +kernel
  have hplay : play {} (.start {}) before = some s := (Option.some_get _).symm
  have hplay' : play {} s between = some t := (Option.some_get _).symm
  have hadds : ∀ ev ∈ before, ev.Adds := by decide
  have hadds' : ∀ ev ∈ between, ev.Adds := by decide
  have hstarts : ∀ i ∈ Memory.timeline {} (.ofSerial 1), i.startsAt = i.createdAt := by
    simp [Memory.timeline, Row.timeline, Row.ofMonitor]
  have htwo : 1 ≤ 2 := by decide
  obtain ⟨pages, hrest⟩ := exists_reads {} (.ofSerial 1) htwo t (0 + 2)
  have hreads := Reads.more (s.shared.memory.page_eq {} default _ _) hfull hadds' hplay' hrest
  obtain ⟨-, hflatten, -⟩ := pages_flatten_eq rfl htwo (.start {}) hstarts hadds hplay
  exact ⟨_, pages, hreads, hflatten _ t hreads⟩

end Interleaving

end StatusTimeline
