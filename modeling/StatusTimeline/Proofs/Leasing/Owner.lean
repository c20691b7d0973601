import StatusTimeline.Lease.Table

/-!
This module contains the rows of keys and their owners: which row a key has after it was acquired, renewed or released,
or another key was, and whose lease that is.
-/

namespace StatusTimeline

theorem find?_of_filter {α : Type} {p q : α → Bool} {xs : List α} {x : α} (h : xs.find? p = some x)
    (hq : q x = true) : (xs.filter q).find? p = some x := by
  rw [List.find?_filter, List.find?_eq_some_iff_append]
  rw [List.find?_eq_some_iff_append] at h
  obtain ⟨hp, as, bs, rfl, has⟩ := h
  refine ⟨by simp [hp, hq], as, bs, rfl, ?_⟩
  intro a ha
  have := has a ha
  simp_all

namespace LeaseTable

def owner? (t : LeaseTable) (key : String) : Option Nat := (t.row? key).map (·.lease)

variable {t t' : LeaseTable} {key k : String} {lease : Nat} {now : Instant} {ttl : Span} {row : LeaseRow}

theorem key_of_row? (h : t.row? key = some row) : row.key = key := by
  simpa using List.find?_some h

theorem row?_eq_none : t.row? key = none ↔ ∀ r ∈ t.rows, r.key ≠ key := by
  simp [row?]

section Map

variable {f : LeaseRow → LeaseRow}

theorem row?_map (hkey : ∀ r, (f r).key = r.key) : row? { rows := t.rows.map f } k = (t.row? k).map f := by
  have hp : ((fun r : LeaseRow => decide (r.key = k)) ∘ f) = fun r => decide (r.key = k) := by
    funext r
    simp [hkey]
  unfold row?
  rw [List.find?_map, hp]

theorem row?_map_of_same (hkey : ∀ r, (f r).key = r.key) (hsame : ∀ r, r.key = k → f r = r) :
    row? { rows := t.rows.map f } k = t.row? k := by
  rw [row?_map hkey]
  cases hrow : t.row? k with
  | none => rfl
  | some row => rw [Option.map_some, hsame row (key_of_row? hrow)]

end Map

section Acquire

theorem key_replace {new : LeaseRow} (hnew : new.key = key) (r : LeaseRow) :
    (if r.key = key then new else r).key = r.key := by
  split
  . next hr => rw [hnew, hr]
  . rfl

/--
The row of a key that was acquired.
-/
theorem row?_tryAcquire (h : (t.tryAcquire key lease now ttl).1 = true) :
    (t.tryAcquire key lease now ttl).2.row? key =
      some { key, lease, acquiredAt := now.onDatabaseClock, expiresAt := now.afterOnDatabaseClock ttl } := by
  unfold tryAcquire at h ⊢
  cases hrow : t.row? key with
  | none =>
    unfold row? at hrow
    simp [row?, List.find?_append, hrow]
  | some row =>
    simp only [hrow] at h ⊢
    split at h
    . next hexpired =>
      rw [if_pos hexpired, row?_map, hrow, Option.map_some, if_pos (key_of_row? hrow)]
      exact key_replace rfl
    . cases h

theorem row?_tryAcquire_of_ne (hk : k ≠ key) : (t.tryAcquire key lease now ttl).2.row? k = t.row? k := by
  unfold tryAcquire
  split
  . simp [row?, List.find?_append, Ne.symm hk]
  . split
    . apply row?_map_of_same
      . exact key_replace rfl
      intro r hr
      rw [if_neg (hr ▸ hk)]
    . rfl

/--
A key is acquired when it has no row, or a row that has run out.
-/
theorem tryAcquire_true (h : t.tryAcquire key lease now ttl = (true, t')) :
    (t.row? key = none ∨ ∃ row, t.row? key = some row ∧ row.expiresAt ≤ now.onDatabaseClock) ∧
      t'.owner? key = some lease ∧ ∀ k, k ≠ key → t'.owner? k = t.owner? k := by
  obtain ⟨hgranted, rfl⟩ := Prod.ext_iff.1 h
  refine ⟨?_, ?_, ?_⟩
  . unfold tryAcquire at hgranted
    cases hrow : t.row? key with
    | none => exact .inl rfl
    | some row =>
      simp only [hrow] at hgranted
      split at hgranted
      . next hexpired => exact .inr ⟨row, rfl, hexpired⟩
      . cases hgranted
  . rw [owner?, row?_tryAcquire hgranted, Option.map_some]
  . intro k hk
    rw [owner?, row?_tryAcquire_of_ne hk, owner?]

/--
Who owns a lease keeps it when a key is acquired, unless it is the lease of that key and has run out.
-/
theorem owner?_tryAcquire {k : String} {owner : Nat} (h : t.tryAcquire key lease now ttl = (true, t'))
    (hown : t.owner? k = some owner) :
    t'.owner? k = some owner ∨
      k = key ∧ ∃ row, t.row? key = some row ∧ row.lease = owner ∧ row.expiresAt ≤ now.onDatabaseClock := by
  obtain ⟨hrow, _, hothers⟩ := tryAcquire_true h
  by_cases hk : k = key
  . subst hk
    obtain ⟨row, hrow', rfl⟩ := Option.map_eq_some_iff.1 hown
    rw [hrow'] at hrow
    rcases hrow with habs | ⟨row', hsame, hexpired⟩
    . cases habs
    . cases hsame
      exact .inr ⟨rfl, row, hrow', rfl, hexpired⟩
  . left
    rw [hothers k hk]
    exact hown

end Acquire

section Renew

theorem row?_renew (k : String) : (t.renew key lease now ttl).2.row? k =
    (t.row? k).map fun r =>
      if r.key = key && r.lease = lease then { r with expiresAt := now.afterOnDatabaseClock ttl } else r := by
  apply row?_map
  intro r
  split <;> rfl

theorem row?_renew_of_ne (hk : k ≠ key) : (t.renew key lease now ttl).2.row? k = t.row? k := by
  apply row?_map_of_same
  . intro r
    split <;> rfl
  . intro r hr
    rw [if_neg]
    simp [hr, hk]

theorem owner?_renew (k : String) : (t.renew key lease now ttl).2.owner? k = t.owner? k := by
  rw [owner?, row?_renew, Option.map_map, owner?]
  congr 1
  funext r
  rw [Function.comp_apply]
  split <;> rfl

end Renew

section Release

theorem row?_release_of_ne (hk : k ≠ key) : (t.release key lease).2.row? k = t.row? k := by
  unfold row? release
  rw [List.find?_filter]
  congr 1
  funext r
  by_cases hr : r.key = k <;> simp [hr, hk]

theorem row?_release (hrow : t.row? k = some row) (hne : ¬ (k = key ∧ row.lease = lease)) :
    (t.release key lease).2.row? k = some row := by
  have hk := key_of_row? hrow
  apply find?_of_filter hrow
  simp only [Bool.not_eq_true', Bool.and_eq_false_iff, decide_eq_false_iff_not]
  rw [hk]
  exact Decidable.not_and_iff_or_not.1 hne

theorem owner?_release {k : String} {owner : Nat} (h : t.owner? k = some owner)
    (hne : ¬ (k = key ∧ owner = lease)) : (t.release key lease).2.owner? k = some owner := by
  obtain ⟨row, hrow, rfl⟩ := Option.map_eq_some_iff.1 h
  rw [owner?, row?_release hrow hne, Option.map_some]

end Release

end LeaseTable

end StatusTimeline
