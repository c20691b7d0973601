import StatusTimeline.Proofs.Engine.Stages
import StatusTimeline.Proofs.Interleaving.Discipline
import StatusTimeline.Proofs.Interleaving.Extends

/-!
This module contains the discipline of clients that open intervals at their creation, delete, purge and read. Each
store that occurs is consistent. While a client holds the lock of a monitor others can only take away the
monitor's oldest intervals, by purges, and never all of them.
-/

namespace StatusTimeline.Interleaving

open Engine (lockKey)

/--
What others may do to the history of a monitor whose lock they do not hold, by the calls that were answered
meanwhile.
-/
structure Shrunk (recent : List Entry) (is js : List Interval) : Prop where
  suffix : js <:+ is
  ne_nil : is ≠ [] → js ≠ []
  kept : (∀ en ∈ recent, en.isPurge = false) → js = is

namespace Shrunk

variable {is js ks : List Interval} {recent recent' : List Entry}

theorem refl (recent : List Entry) (is : List Interval) : Shrunk recent is is :=
  ⟨List.suffix_refl is, id, fun _ => rfl⟩

theorem trans (h : Shrunk recent is js) (h' : Shrunk recent' js ks) : Shrunk (recent' ++ recent) is ks := by
  refine ⟨h'.suffix.trans h.suffix, fun hne => h'.ne_nil (h.ne_nil hne), ?_⟩
  intro hno
  rw [h'.kept fun en hen => hno en (by simp [hen]), h.kept fun en hen => hno en (by simp [hen])]

theorem getLast?_eq (h : Shrunk recent is js) : js.getLast? = is.getLast? := by
  by_cases hnil : is = []
  . have := h.suffix
    rw [hnil, List.suffix_nil] at this
    rw [this, hnil]
  . have hnil' := h.ne_nil hnil
    rw [List.getLast?_eq_some_getLast hnil, List.getLast?_eq_some_getLast hnil', h.suffix.getLast hnil']

end Shrunk

namespace Shared

structure Orderly (sh : Shared) : Prop where
  sane : sh.Sane
  consistent : sh.memory.store.Consistent

/--
What a client may rely on: the monitors whose locks it holds are not appended to, and not emptied.
-/
structure Shrinks (i : Nat) (sh sh' : Shared) : Prop where
  grown : Extends i sh sh'
  held : ∃ recent, sh'.trace = recent ++ sh.trace ∧
    ∀ M, (lockKey M, i) ∈ sh.holders → Shrunk recent (sh.history M) (sh'.history M)

/--
A client has counted two intervals or more of a monitor and then, after a purge at least, found none next to `t`.
-/
def Overtaken (i : Nat) (monitor : Uuid) (t : Interval) (trace : List Entry) : Prop :=
  ∃ late mid old n stamp stamp',
    trace = late ++
      { client := i
        call := .store (.findNeighbors monitor t.startsAt)
        reply := .served stamp'
        answer := .ok { before := none, after := none } } :: mid ++
      { client := i
        call := .store (.count monitor)
        reply := .served stamp
        answer := .ok n } :: old ∧
    2 ≤ n ∧ ∃ en ∈ mid, en.isPurge = true

/--
A call empties a monitor: it is a deletion that a purge has overtaken.
-/
def Empties (i : Nat) (monitor : Uuid) (en : Entry) (sh : Shared) : Prop :=
  ∃ t stamp, sh.history monitor = [t] ∧ Overtaken i monitor t sh.trace ∧
    en =
      { client := i
        call := .store (.applyDeletion { target := t.id, repair := none })
        reply := .served stamp
        answer := .ok () }

variable {sh sh' sh'' : Shared} {i j : Nat} {M : Uuid} {t : Interval}

namespace Shrinks

theorem refl (i : Nat) (sh : Shared) : Shrinks i sh sh :=
  ⟨.refl i sh, [], rfl, fun _ _ => .refl _ _⟩

theorem trans (h : Shrinks i sh sh') (h' : Shrinks i sh' sh'') : Shrinks i sh sh'' := by
  obtain ⟨recent, htr, hheld⟩ := h.held
  obtain ⟨recent', htr', hheld'⟩ := h'.held
  refine ⟨h.grown.trans h'.grown, recent' ++ recent, by rw [htr', htr, List.append_assoc], ?_⟩
  intro M hM
  exact (hheld M hM).trans (hheld' M (h.grown.holds _ hM))

theorem note (i : Nat) (sh : Shared) (en : Entry) : Shrinks i sh (sh.note en) :=
  ⟨extends_note en, [en], rfl, fun _ _ => .refl _ _⟩

theorem hold (key : String) (j i : Nat) (sh : Shared) : Shrinks i sh (sh.hold key j) :=
  ⟨extends_hold key j, [], rfl, fun _ _ => .refl _ _⟩

theorem getLast?_eq (h : Shrinks i sh sh') (hM : (lockKey M, i) ∈ sh.holders) :
    (sh'.history M).getLast? = (sh.history M).getLast? := by
  obtain ⟨recent, _, hheld⟩ := h.held
  exact (hheld M hM).getLast?_eq

theorem suffix (h : Shrinks i sh sh') (hM : (lockKey M, i) ∈ sh.holders) :
    sh'.history M <:+ sh.history M := by
  obtain ⟨recent, _, hheld⟩ := h.held
  exact (hheld M hM).suffix

theorem contains (h : Shrinks i sh sh') {id : Uuid} (hid : id ∈ sh.drawn)
    (hc : sh'.memory.store.contains id = true) : sh.memory.store.contains id = true := by
  obtain ⟨r, hr, rfl⟩ := Store.contains_iff.1 hc
  rcases h.grown.origin r hr with hnew | ⟨r₀, hr₀, hid₀, _⟩
  . exact absurd hid hnew
  . exact Store.contains_iff.2 ⟨r₀, hr₀, hid₀⟩

theorem still (h : Shrinks i sh sh') (hsh : sh.Orderly) (hM : (lockKey M, i) ∈ sh.holders)
    (ht : t ∈ sh.history M) (hc : sh'.memory.store.contains t.id = true) : t ∈ sh'.history M := by
  obtain ⟨r', hr', hid'⟩ := Store.contains_iff.1 hc
  obtain ⟨r, hr, rfl, hm⟩ := Store.mem_history.1 ht
  have hmem : r'.interval ∈ sh'.history M :=
    Store.mem_history.2 ⟨r', hr', rfl, (hsh.sane.origin_unique h.grown hr hr' hid').trans hm⟩
  -- the row under its identifier was there before, and there is only one such row
  obtain ⟨r₀, hr₀, heq, _⟩ := Store.mem_history.1 ((h.suffix hM).subset hmem)
  have : r₀ = r := hsh.sane.wellFormed.eq_of_id hr₀ hr (by rw [heq, hid'])
  rw [← this, heq]
  exact hmem

end Shrinks

def orderly : Discipline Shared where
  view := id
  inv := Orderly
  rely := Shrinks
  promise := fun i sh sh' => ∃ en, sh'.trace = en :: sh.trace ∧
    ∀ M, sh.history M ≠ [] → sh'.history M = [] → Empties i M en sh
  rely_refl := Shrinks.refl
  rely_trans := fun _ _ _ _ => Shrinks.trans

/--
A call keeps to the discipline if it only shrinks the histories of monitors whose locks its client does not hold.
-/
theorem Orderly.moves (h : sh.Orderly) {en : Entry} (h' : sh'.Orderly) (htr : sh'.trace = en :: sh.trace)
    (hx : ∀ j, j ≠ i → Extends j sh sh')
    (hs : ∀ M, (lockKey M, i) ∉ sh.holders → Shrunk [en] (sh.history M) (sh'.history M))
    (hp : ∀ M, (lockKey M, i) ∈ sh.holders → sh.history M ≠ [] → sh'.history M = [] →
      Empties i M en sh) : orderly.Moves i sh sh' sh' := by
  refine ⟨rfl, h', ?_, en, htr, ?_⟩
  . intro j hj
    refine ⟨hx j hj, [en], htr, ?_⟩
    intro M hM
    apply hs M
    intro hi
    exact hj (h.sane.holder_unique hi hM)
  . intro M hne hnil
    by_cases hM : (lockKey M, i) ∈ sh.holders
    . exact hp M hM hne hnil
    . exact absurd hnil ((hs M hM).ne_nil hne)

theorem Orderly.moves_quietly (h : sh.Orderly) {en : Entry} (h' : sh'.Orderly)
    (htr : sh'.trace = en :: sh.trace) (hx : ∀ j, j ≠ i → Extends j sh sh')
    (hs : ∀ M, sh'.history M = sh.history M) : orderly.Moves i sh sh' sh' := by
  apply h.moves h' htr hx
  . intro M _
    rw [hs M]
    exact .refl _ _
  . intro M _ hne hnil
    rw [hs M] at hnil
    exact absurd hnil hne

section Calls

variable {P : Shared → Prop}

theorem Orderly.note (h : sh.Orderly) (en : Entry) : (sh.note en).Orderly :=
  ⟨h.sane.note en, h.consistent⟩

theorem spec_read {c : StoreCall} (hc : c.isRead = true) {Q : Except Error c.Answer → Shared → Prop}
    (h : ∀ sh₀ sh stamp, Orderly sh₀ → P sh₀ → Orderly sh → Shrinks i sh₀ sh →
      Q (sh.memory.store.answer stamp c).1 (sh.note
        { client := i
          call := .store c
          reply := .served stamp
          answer := (sh.memory.store.answer stamp c).1 })) :
    orderly.Spec i P c.perform Q := by
  apply Discipline.spec_call (c := .store c)
  intro sh₀ sh h₀ hP hsh hrely how answer shared hreply
  obtain ⟨stamp, rfl, rfl, rfl⟩ := reply_read hc hreply
  refine ⟨_, hsh.moves_quietly (hsh.note _) rfl (fun j _ => extends_note _) (fun _ => rfl), ?_⟩
  exact h sh₀ sh stamp h₀ hP hsh hrely

/--
A call that changes the store must leave a consistent one, and the monitors alone whose locks its client does not
hold.
-/
theorem spec_write {c : StoreCall} {Q : Except Error c.Answer → Shared → Prop}
    (h : ∀ sh₀ sh stamp answer store, Orderly sh₀ → P sh₀ → Orderly sh → Shrinks i sh₀ sh →
      (c.draws = true → stamp.id ∉ sh.drawn) → sh.memory.store.answer stamp c = (answer, store) →
      let en : Entry := { client := i, call := .store c, reply := .served stamp, answer }
      store.Consistent ∧
        (∀ M, (lockKey M, i) ∉ sh.holders → Shrunk [en] (sh.history M) (store.history M)) ∧
        (∀ M, (lockKey M, i) ∈ sh.holders → sh.history M ≠ [] → store.history M = [] → Empties i M en sh) ∧
        Q answer (((sh.draw stamp c).remember { sh.memory with store }).note en)) :
    orderly.Spec i P c.perform Q := by
  apply Discipline.spec_call (c := .store c)
  intro sh₀ sh h₀ hP hsh hrely how answer shared hreply
  have hreply : sh.reply i how (.store c) = some (answer, shared) := hreply
  obtain ⟨stamp, store, rfl, hans, hd, rfl⟩ := reply_store hreply
  obtain ⟨hc, hs, hp, hQ⟩ := h sh₀ sh stamp answer store h₀ hP hsh hrely hd hans
  have hstore : (sh.memory.store.answer stamp c).2 = store := by rw [hans]
  have hsane := hsh.sane.stored hd
  have hx := fun j => extends_stored (j := j) hd
  rw [hstore] at hsane hx
  refine ⟨_, hsh.moves ⟨hsane.note _, hc⟩ ?_ ?_ hs hp, hQ⟩
  . simp only [Shared.note, remember, draw_trace]
  . intro j _
    exact (hx j).trans (extends_note _)

theorem spec_search {key : String} (user : Uuid) :
    orderly.Spec i (fun sh => (key, i) ∈ sh.holders) (Call.resolve user).perform fun outcome sh =>
      (key, i) ∈ sh.holders ∧ outcome = .ok (.ofSearch ((orderly.view sh).memory.directory.find? user)) := by
  apply Discipline.spec_call (c := .resolve user)
  intro sh₀ sh _ hheld hsh hrely how answer shared hreply
  obtain ⟨hanswer, rfl⟩ := reply_resolve hreply
  refine ⟨_, hsh.moves_quietly (hsh.note _) rfl (fun j _ => extends_note _) (fun _ => rfl), ?_⟩
  exact ⟨hrely.grown.holds _ hheld, hanswer⟩

theorem spec_setPointer {update : PointerUpdate} {Q : Except Error Unit → Shared → Prop}
    (h : ∀ sh₀ sh board en, Orderly sh₀ → P sh₀ → Orderly sh → Shrinks i sh₀ sh →
      Q (.ok ()) ((sh.remember { sh.memory with board }).note en)) :
    orderly.Spec i P (Call.setPointer update).perform Q := by
  apply Discipline.spec_call (c := .setPointer update)
  intro sh₀ sh h₀ hP hsh hrely how answer shared hreply
  obtain ⟨rfl, rfl⟩ := reply_setPointer hreply
  refine ⟨_, hsh.moves_quietly ⟨(hsh.sane.set _).note _, hsh.consistent⟩ rfl ?_ (fun _ => rfl), ?_⟩
  . intro j _
    exact (extends_set _).trans (extends_note _)
  . exact h sh₀ sh _ _ h₀ hP hsh hrely

theorem spec_lock {key : String} {Q : Except Error Token → Shared → Prop}
    (hok : ∀ sh₀ sh token en, Orderly sh₀ → P sh₀ → Orderly sh → Shrinks i sh₀ sh → token.key = key →
      Q (.ok token) ((sh.hold key i).note en))
    (herror : ∀ e sh, Q (.error e) sh) : orderly.Spec i P (Call.lock key).perform Q := by
  apply Discipline.spec_call (c := .lock key)
  intro sh₀ sh h₀ hP hsh hrely how answer shared hreply
  rcases reply_lock hreply with ⟨token, rfl, hkey, hfree, rfl⟩ | ⟨waited, rfl, rfl⟩
  . refine ⟨_, hsh.moves_quietly ⟨(hsh.sane.hold hfree i).note _, hsh.consistent⟩ rfl ?_ (fun _ => rfl), ?_⟩
    . intro j _
      exact (extends_hold key i).trans (extends_note _)
    . exact hok sh₀ sh token _ h₀ hP hsh hrely hkey
  . refine ⟨_, hsh.moves_quietly (hsh.note _) rfl (fun j _ => extends_note _) (fun _ => rfl), ?_⟩
    exact herror _ _

theorem spec_release {token : Token} : orderly.Spec i P (Call.release token).perform fun _ _ => True := by
  apply Discipline.spec_call (c := .release token)
  intro sh₀ sh h₀ hP hsh hrely how answer shared hreply
  obtain ⟨rfl, rfl⟩ := reply_release hreply
  refine ⟨_, hsh.moves_quietly ⟨(hsh.sane.free _ i).note _, hsh.consistent⟩ rfl ?_ (fun _ => rfl), trivial⟩
  intro j hj
  exact (extends_free hj _).trans (extends_note _)

theorem spec_locked {monitor : Uuid} {body : Operation α} {R : Shared → Prop}
    (hR : ∀ sh₀ sh en, Orderly sh₀ → P sh₀ → Orderly sh → Shrinks i sh₀ sh →
      R ((sh.hold (lockKey monitor) i).note en))
    (hbody : orderly.Spec i (fun sh => (lockKey monitor, i) ∈ sh.holders ∧ R sh) body fun _ _ => True) :
    orderly.Spec i P (Engine.locked monitor body) fun _ _ => True := by
  unfold Engine.locked
  apply Discipline.spec_bind
  . apply spec_lock (Q := fun outcome sh =>
      ∀ token, outcome = .ok token → (lockKey monitor, i) ∈ sh.holders ∧ R sh)
    . intro sh₀ sh token en h₀ hP hsh hrely _ _ _
      exact ⟨by simp [hold, Shared.note], hR sh₀ sh en h₀ hP hsh hrely⟩
    . intro e sh token habs
      cases habs
  . intro token
    apply Discipline.spec_weaken (R := fun sh => (lockKey monitor, i) ∈ sh.holders ∧ R sh)
    . exact Discipline.spec_finish hbody fun _ => spec_release
    . intro sh _ h
      exact h token rfl
  . intro e sh _ _
    trivial

end Calls

end Shared

end StatusTimeline.Interleaving
