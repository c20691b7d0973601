import StatusTimeline.Proofs.Interleaving.State
import StatusTimeline.Proofs.Store.Consistent

/-!
This module contains what holds of the shared state of any interleaving: identifiers are never drawn twice, so a
row with a known identifier is an old row, and nobody's locks are taken by another.
-/

namespace StatusTimeline.Interleaving

namespace Shared

def history (sh : Shared) (monitor : Uuid) : List Interval := sh.memory.store.history monitor

/--
Rows have identifiers that were drawn, and each key is held by one client.
-/
structure Sane (sh : Shared) : Prop where
  wellFormed : sh.memory.store.WellFormed
  known : ∀ r ∈ sh.memory.store.rows, r.interval.id ∈ sh.drawn
  exclusive : sh.holders.Pairwise fun a b => a.1 ≠ b.1

/--
What a client finds unchanged of the shared state after others have gone on.
-/
structure Extends (i : Nat) (sh sh' : Shared) : Prop where
  drawn : ∀ id ∈ sh.drawn, id ∈ sh'.drawn
  origin : ∀ r ∈ sh'.memory.store.rows, sh.memory.store.Stems (· ∉ sh.drawn) r
  holds : ∀ key, (key, i) ∈ sh.holders → (key, i) ∈ sh'.holders
  directory : sh'.memory.directory = sh.memory.directory

variable {sh sh' sh'' : Shared} {i j : Nat} {key : String}

namespace Extends

theorem refl (i : Nat) (sh : Shared) : Extends i sh sh where
  drawn := fun _ h => h
  origin := fun _ hr => Store.stems_of_mem hr
  holds := fun _ h => h
  directory := rfl

theorem trans (h : Extends i sh sh') (h' : Extends i sh' sh'') : Extends i sh sh'' where
  drawn := fun id hid => h'.drawn id (h.drawn id hid)
  origin := by
    intro r hr
    apply Store.Stems.trans h.origin
    exact (h'.origin r hr).imp_left fun hnew hid => hnew (h.drawn _ hid)
  holds := fun key hk => h'.holds key (h.holds key hk)
  directory := h'.directory.trans h.directory

end Extends

namespace Sane

theorem contains_drawn (h : sh.Sane) {id : Uuid} (hc : sh.memory.store.contains id = true) :
    id ∈ sh.drawn := by
  obtain ⟨r, hr, rfl⟩ := Store.contains_iff.1 hc
  exact h.known r hr

theorem fresh (h : sh.Sane) {id : Uuid} (hid : id ∉ sh.drawn) : sh.memory.store.contains id = false := by
  rw [← Bool.not_eq_true]
  exact fun hc => hid (h.contains_drawn hc)

theorem holder_unique (h : sh.Sane) (hi : (key, i) ∈ sh.holders) (hj : (key, j) ∈ sh.holders) : j = i := by
  obtain ⟨n, hn, hin⟩ := List.mem_iff_getElem.1 hi
  obtain ⟨m, hm, hjm⟩ := List.mem_iff_getElem.1 hj
  have hp := List.pairwise_iff_getElem.1 h.exclusive
  rcases Nat.lt_trichotomy n m with hlt | heq | hlt
  . have := hp n m hn hm hlt
    simp [hin, hjm] at this
  . subst heq
    rw [hin] at hjm
    cases hjm
    rfl
  . have := hp m n hm hn hlt
    simp [hin, hjm] at this

/--
An old row of an interval that a client knows of is of the monitor that the client knows.
-/
theorem origin_unique (h : sh.Sane) (hx : Extends i sh sh') {r r' : Row} (hr : r ∈ sh.memory.store.rows)
    (hr' : r' ∈ sh'.memory.store.rows) (hid : r'.interval.id = r.interval.id) :
    r'.interval.monitorId = r.interval.monitorId := by
  -- a row that is new has an identifier that nobody knew
  rcases hx.origin r' hr' with hnew | ⟨r₀, hr₀, hid₀, hm₀⟩
  . exact absurd (h.known r hr) (hid ▸ hnew)
  . rw [← hm₀, h.wellFormed.eq_of_id hr₀ hr (hid₀.trans hid)]

theorem note (h : sh.Sane) (en : Entry) : (sh.note en).Sane := ⟨h.wellFormed, h.known, h.exclusive⟩

theorem hold (h : sh.Sane) (hfree : sh.isFree key = true) (i : Nat) : (sh.hold key i).Sane := by
  refine ⟨h.wellFormed, h.known, ?_⟩
  unfold Shared.hold
  rw [List.pairwise_cons]
  refine ⟨?_, h.exclusive⟩
  intro a ha heq
  have hne := List.all_eq_true.1 hfree a ha
  rw [decide_eq_true_eq] at hne
  exact hne heq.symm

theorem free (h : sh.Sane) (key : String) (i : Nat) : (sh.free key i).Sane :=
  ⟨h.wellFormed, h.known, List.Pairwise.sublist List.filter_sublist h.exclusive⟩

theorem freeAll (h : sh.Sane) (i : Nat) : (sh.freeAll i).Sane :=
  ⟨h.wellFormed, h.known, List.Pairwise.sublist List.filter_sublist h.exclusive⟩

theorem set (h : sh.Sane) (board : Board) : (sh.remember { sh.memory with board }).Sane :=
  ⟨h.wellFormed, h.known, h.exclusive⟩

theorem stored (h : sh.Sane) {stamp : Stamp} {c : StoreCall} (hd : c.draws = true → stamp.id ∉ sh.drawn) :
    ((sh.draw stamp c).remember
      { sh.memory with store := (sh.memory.store.answer stamp c).2 }).Sane := by
  have hholders : (sh.draw stamp c).holders = sh.holders := by
    unfold draw
    split <;> rfl
  refine ⟨h.wellFormed.answer fun hc => h.fresh (hd hc), ?_, ?_⟩
  . intro r hr
    unfold draw remember
    rcases Store.stems_answer hr with ⟨hc, hid⟩ | ⟨r₀, hr₀, hid, _⟩
    . simp [hc, hid]
    . have := h.known r₀ hr₀
      rw [hid] at this
      split
      . exact List.mem_cons_of_mem _ this
      . exact this
  . unfold remember
    rw [hholders]
    exact h.exclusive

end Sane

theorem extends_note (en : Entry) : Extends j sh (sh.note en) :=
  ⟨fun _ h => h, fun _ hr => Store.stems_of_mem hr, fun _ h => h, rfl⟩

theorem extends_hold (key : String) (i : Nat) : Extends j sh (sh.hold key i) :=
  ⟨fun _ h => h, fun _ hr => Store.stems_of_mem hr, fun _ h => List.mem_cons_of_mem _ h, rfl⟩

theorem extends_free (hj : j ≠ i) (key : String) : Extends j sh (sh.free key i) := by
  refine ⟨fun _ h => h, fun _ hr => Store.stems_of_mem hr, ?_, rfl⟩
  intro key' h
  unfold free
  simp [h, hj]

theorem extends_freeAll (hj : j ≠ i) : Extends j sh (sh.freeAll i) := by
  refine ⟨fun _ h => h, fun _ hr => Store.stems_of_mem hr, ?_, rfl⟩
  intro key' h
  unfold freeAll
  simp [h, hj]

theorem extends_set (board : Board) : Extends j sh (sh.remember { sh.memory with board }) :=
  ⟨fun _ h => h, fun _ hr => Store.stems_of_mem hr, fun _ h => h, rfl⟩

theorem extends_stored {stamp : Stamp} {c : StoreCall} (hd : c.draws = true → stamp.id ∉ sh.drawn) :
    Extends j sh ((sh.draw stamp c).remember
      { sh.memory with store := (sh.memory.store.answer stamp c).2 }) := by
  refine ⟨?_, ?_, ?_, rfl⟩
  . intro id hid
    unfold draw remember
    split
    . exact List.mem_cons_of_mem _ hid
    . exact hid
  . intro r hr
    exact (Store.stems_answer hr).imp_left fun ⟨hc, hid⟩ => hid ▸ hd hc
  . intro key hk
    unfold draw remember
    split <;> exact hk

end Shared

end StatusTimeline.Interleaving
