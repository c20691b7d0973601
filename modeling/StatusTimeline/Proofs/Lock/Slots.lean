import Mathlib.Data.List.Dedup
import StatusTimeline.Lock.Slots

/-!
This module contains the locks of one process under any interleaving of the steps that tasks take on them. A slot is
looked up under the lock of the map, while claims come to hold a slot and leave it at any time in between, so that what
keeps two slots from serving one key is that each claimed slot stays in the map.
-/

namespace StatusTimeline

namespace Slots

/--
The claim of a ticket holds its slot.
-/
def hold (ticket : Nat) (c : Claim) : Claim := if c.ticket = ticket then { c with holds := true } else c

/--
Let a claim that waits hold its slot, unless another one does.
-/
def take (s : Slots) (ticket : Nat) : Slots :=
  match s.claims.find? (·.ticket = ticket) with
  | none => s
  | some c =>
    if s.isHeld c.slot then s
    else { s with claims := s.claims.map (hold ticket) }

/--
Take a claim off its slot: a waiter times out or is cancelled, or a token is dropped or released.
-/
def leave (s : Slots) (ticket : Nat) : Slots := { s with claims := s.claims.filter (·.ticket ≠ ticket) }

/--
The steps of tasks: the lookup of a slot, the grant of a lock to anyone who waits for it, the end of a claim, and the
pruning of a slot, which comes later than that or not at all. Besides there are the operations that take several of these
steps at once.
-/
inductive Event where
  | lookup (key : String)
  | take (ticket : Nat)
  | leave (ticket : Nat)
  | prune (key : String)
  | grant (slot : Nat)
  | withdraw (ticket : Nat)
  | giveUp (key : String) (ticket : Nat)
  | enter (key : String)
deriving DecidableEq, Repr

def step (s : Slots) : Event → Slots
  | .lookup key => (s.claim key).2
  | .take ticket => s.take ticket
  | .leave ticket => s.leave ticket
  | .prune key => s.prune key
  | .grant slot => s.grant slot
  | .withdraw ticket => s.withdraw ticket
  | .giveUp key ticket => s.giveUp key ticket
  | .enter key => (s.enter key).2

def run (s : Slots) (evs : List Event) : Slots := evs.foldl step s

/--
What always holds: each claim is on the slot that the map has for its key, and on each slot one claim at most holds it.
-/
structure Sound (s : Slots) : Prop where
  keys : (s.entries.map (·.1)).Nodup
  slots : (s.entries.map (·.2)).Nodup
  bounded : ∀ e ∈ s.entries, e.2 ≤ s.lastSlot
  mapped : ∀ c ∈ s.claims, (c.key, c.slot) ∈ s.entries
  tickets : (s.claims.map (·.ticket)).Nodup
  drawn : ∀ c ∈ s.claims, c.ticket ≤ s.lastTicket
  alone : ∀ c ∈ s.claims, ∀ d ∈ s.claims, c.holds = true → d.holds = true → c.slot = d.slot → c.ticket = d.ticket

theorem isIdle_eq_false {s : Slots} {slot : Nat} : s.isIdle slot = false ↔ ∃ c ∈ s.claims, c.slot = slot := by
  simp [isIdle]

theorem isHeld_eq_false {s : Slots} {slot : Nat} :
    s.isHeld slot = false ↔ ∀ c ∈ s.claims, c.slot = slot → c.holds = false := by
  simp [isHeld]

theorem hold_kept (ticket : Nat) (c : Claim) :
    (hold ticket c).ticket = c.ticket ∧ (hold ticket c).key = c.key ∧ (hold ticket c).slot = c.slot := by
  unfold hold
  split <;> exact ⟨rfl, rfl, rfl⟩

theorem hold_of_ne {ticket : Nat} {c : Claim} (h : c.ticket ≠ ticket) : hold ticket c = c := if_neg h

theorem map_hold_of_ne {ticket : Nat} {cs : List Claim} (h : ∀ c ∈ cs, c.ticket ≠ ticket) :
    cs.map (hold ticket) = cs :=
  (List.map_congr_left fun c hc => hold_of_ne (h c hc)).trans (List.map_id' _)

/--
To grant a slot is to let the oldest claim on it hold it.
-/
theorem grantOldest_eq (slot : Nat) {cs : List Claim} (h : (cs.map (·.ticket)).Nodup) :
    (∀ c ∈ cs, c.slot ≠ slot) ∧ grantOldest slot cs = cs ∨
      ∃ c ∈ cs, c.slot = slot ∧ grantOldest slot cs = cs.map (hold c.ticket) := by
  induction cs with
  | nil => exact .inl ⟨by simp, rfl⟩
  | cons c cs ih =>
    obtain ⟨hc, hcs⟩ := List.nodup_cons.1 h
    have hne : ∀ d ∈ cs, d.ticket ≠ c.ticket := fun d hd heq => hc (List.mem_map.2 ⟨d, hd, heq⟩)
    unfold grantOldest
    split
    . next hslot =>
      refine .inr ⟨c, List.mem_cons_self, hslot, ?_⟩
      rw [List.map_cons, map_hold_of_ne hne, hold, if_pos rfl]
    . next hslot =>
      rcases ih hcs with ⟨hnone, heq⟩ | ⟨d, hd, hdslot, heq⟩
      . refine .inl ⟨List.forall_mem_cons.2 ⟨hslot, hnone⟩, ?_⟩
        rw [heq]
      . refine .inr ⟨d, List.mem_cons_of_mem c hd, hdslot, ?_⟩
        rw [heq, List.map_cons, hold_of_ne (hne d hd).symm]

namespace Sound

variable {s : Slots} {key : String} {slot ticket : Nat}

theorem empty : Sound {} := by constructor <;> simp

theorem slotOf?_eq (h : s.Sound) (he : (key, slot) ∈ s.entries) : s.slotOf? key = some slot := by
  unfold slotOf?
  cases hfind : s.entries.find? (·.1 = key) with
  | none => simpa using List.find?_eq_none.1 hfind _ he
  | some e =>
    have hkey : e.1 = key := by simpa using List.find?_some hfind
    rw [List.inj_on_of_nodup_map h.keys (List.mem_of_find?_eq_some hfind) he hkey]
    rfl

/--
Entries may go that nobody claims.
-/
theorem filter (h : s.Sound) {p : String × Nat → Bool} (hp : ∀ c ∈ s.claims, p (c.key, c.slot) = true) :
    Sound { s with entries := s.entries.filter p } where
  keys := h.keys.sublist (List.filter_sublist.map _)
  slots := h.slots.sublist (List.filter_sublist.map _)
  bounded := fun e he => h.bounded e (List.mem_filter.1 he).1
  mapped := fun c hc => List.mem_filter.2 ⟨h.mapped c hc, hp c hc⟩
  tickets := h.tickets
  drawn := h.drawn
  alone := h.alone

theorem sweep (h : s.Sound) : s.sweep.Sound := by
  apply h.filter
  intro c hc
  rw [Bool.not_eq_true', isIdle_eq_false]
  exact ⟨c, hc, rfl⟩

theorem prune (h : s.Sound) (key : String) : (s.prune key).Sound := by
  apply h.filter
  intro c hc
  rw [Bool.or_eq_true, Bool.not_eq_true', isIdle_eq_false]
  exact .inr ⟨c, hc, rfl⟩

/--
The slot that a key has after it was ensured is in the map.
-/
theorem ensure (h : s.Sound) (key : String) :
    (s.ensure key).2.Sound ∧ (key, (s.ensure key).1) ∈ (s.ensure key).2.entries ∧ (s.ensure key).2.claims = s.claims := by
  unfold Slots.ensure
  cases hslot : s.slotOf? key with
  | some slot =>
    refine ⟨h, ?_, rfl⟩
    obtain ⟨e, hfind, rfl⟩ := Option.map_eq_some_iff.1 hslot
    have hkey : e.1 = key := by simpa using List.find?_some hfind
    rw [← hkey]
    exact List.mem_of_find?_eq_some hfind
  | none =>
    have hkey : ∀ e ∈ s.entries, e.1 ≠ key := by simpa [slotOf?] using hslot
    refine ⟨⟨?_, ?_, ?_, ?_, h.tickets, h.drawn, h.alone⟩, by simp, rfl⟩
    . rw [List.map_append, List.nodup_append]
      refine ⟨h.keys, by simp, ?_⟩
      intro k hk k' hk'
      obtain ⟨e, he, rfl⟩ := List.mem_map.1 hk
      rw [List.mem_singleton.1 hk']
      exact hkey e he
    . rw [List.map_append, List.nodup_append]
      refine ⟨h.slots, by simp, ?_⟩
      intro k hk k' hk'
      obtain ⟨e, he, rfl⟩ := List.mem_map.1 hk
      rw [List.mem_singleton.1 hk']
      exact Nat.ne_of_lt (Nat.lt_succ_of_le (h.bounded e he))
    . rw [List.forall_mem_append, List.forall_mem_singleton]
      exact ⟨fun e he => Nat.le_succ_of_le (h.bounded e he), Nat.le_refl _⟩
    . exact fun c hc => List.mem_append_left _ (h.mapped c hc)

theorem claim (h : s.Sound) (key : String) : (s.claim key).2.Sound := by
  obtain ⟨hs, hentry, _⟩ := h.sweep.ensure key
  unfold Slots.claim
  refine ⟨hs.keys, hs.slots, hs.bounded, ?_, ?_, ?_, ?_⟩
  . rw [List.forall_mem_append, List.forall_mem_singleton]
    exact ⟨hs.mapped, hentry⟩
  . rw [List.map_append, List.nodup_append]
    refine ⟨hs.tickets, by simp, ?_⟩
    intro ticket hticket ticket' hticket'
    obtain ⟨c, hc, rfl⟩ := List.mem_map.1 hticket
    rw [List.mem_singleton.1 hticket']
    exact Nat.ne_of_lt (Nat.lt_succ_of_le (hs.drawn c hc))
  . rw [List.forall_mem_append, List.forall_mem_singleton]
    exact ⟨fun c hc => Nat.le_succ_of_le (hs.drawn c hc), Nat.le_refl _⟩
  . -- the new claim does not hold its slot
    intro c hc d hd hcholds hdholds
    rcases List.mem_append.1 hc with hc | hc
    . rcases List.mem_append.1 hd with hd | hd
      . exact hs.alone c hc d hd hcholds hdholds
      . rw [List.mem_singleton.1 hd] at hdholds
        cases hdholds
    . rw [List.mem_singleton.1 hc] at hcholds
      cases hcholds

theorem leave (h : s.Sound) (ticket : Nat) : (s.leave ticket).Sound where
  keys := h.keys
  slots := h.slots
  bounded := h.bounded
  mapped := fun c hc => h.mapped c (List.mem_filter.1 hc).1
  tickets := h.tickets.sublist (List.filter_sublist.map _)
  drawn := fun c hc => h.drawn c (List.mem_filter.1 hc).1
  alone := fun c hc d hd => h.alone c (List.mem_filter.1 hc).1 d (List.mem_filter.1 hd).1

/--
The claim of a ticket comes to hold a slot that nobody holds.
-/
theorem hold (h : s.Sound) {c : Claim} (hc : c ∈ s.claims) (hfree : s.isHeld c.slot = false) :
    Sound { s with claims := s.claims.map (hold c.ticket) } := by
  have hlater : ∀ d ∈ s.claims, (Slots.hold c.ticket d).holds = true → d = c ∨ d.holds = true := by
    intro d hd hholds
    by_cases hne : d.ticket = c.ticket
    . exact .inl (List.inj_on_of_nodup_map h.tickets hd hc hne)
    . rw [hold_of_ne hne] at hholds
      exact .inr hholds
  have hnever : ∀ d ∈ s.claims, d.holds = true → d.slot ≠ c.slot := by
    intro d hd hholds hslot
    rw [isHeld_eq_false.1 hfree d hd hslot] at hholds
    cases hholds
  refine ⟨h.keys, h.slots, h.bounded, ?_, ?_, ?_, ?_⟩
  . rw [List.forall_mem_map]
    intro d hd
    rw [(hold_kept _ d).2.1, (hold_kept _ d).2.2]
    exact h.mapped d hd
  . rw [List.map_map]
    have hsame : (fun d : Claim => d.ticket) ∘ Slots.hold c.ticket = (·.ticket) := by
      funext d
      exact (hold_kept _ d).1
    rw [hsame]
    exact h.tickets
  . rw [List.forall_mem_map]
    intro d hd
    rw [(hold_kept _ d).1]
    exact h.drawn d hd
  . simp only [List.forall_mem_map]
    intro d₁ hd₁ d₂ hd₂ hholds₁ hholds₂ hslot
    rw [(hold_kept _ d₁).2.2, (hold_kept _ d₂).2.2] at hslot
    rw [(hold_kept _ d₁).1, (hold_kept _ d₂).1]
    rcases hlater d₁ hd₁ hholds₁ with rfl | hheld₁ <;> rcases hlater d₂ hd₂ hholds₂ with rfl | hheld₂
    . rfl
    . exact absurd hslot.symm (hnever d₂ hd₂ hheld₂)
    . exact absurd hslot (hnever d₁ hd₁ hheld₁)
    . exact h.alone d₁ hd₁ d₂ hd₂ hheld₁ hheld₂ hslot

theorem take (h : s.Sound) (ticket : Nat) : (s.take ticket).Sound := by
  unfold Slots.take
  split
  . exact h
  . next c hfind =>
    have hticket : c.ticket = ticket := by simpa using List.find?_some hfind
    split
    . exact h
    . next hfree =>
      rw [← hticket]
      exact h.hold (List.mem_of_find?_eq_some hfind) (Bool.eq_false_iff.2 hfree)

theorem grant (h : s.Sound) (slot : Nat) : (s.grant slot).Sound := by
  unfold Slots.grant
  split
  . exact h
  . next hfree =>
    rcases grantOldest_eq slot h.tickets with ⟨_, heq⟩ | ⟨c, hc, rfl, heq⟩
    . rw [heq]
      exact h
    . rw [heq]
      exact h.hold hc (Bool.eq_false_iff.2 hfree)

theorem withdraw (h : s.Sound) (ticket : Nat) : (s.withdraw ticket).Sound := by
  unfold Slots.withdraw
  split
  . exact h
  . next c _ => exact (h.leave ticket).grant c.slot

theorem giveUp (h : s.Sound) (key : String) (ticket : Nat) : (s.giveUp key ticket).Sound :=
  (h.withdraw ticket).prune key

theorem enter (h : s.Sound) (key : String) : (s.enter key).2.Sound := by
  unfold Slots.enter
  dsimp only
  split
  . exact (h.claim key).grant _
  . exact h.claim key

theorem step (h : s.Sound) (ev : Event) : (s.step ev).Sound := by
  cases ev with
  | lookup key => exact h.claim key
  | take ticket => exact h.take ticket
  | leave ticket => exact h.leave ticket
  | prune key => exact h.prune key
  | grant slot => exact h.grant slot
  | withdraw ticket => exact h.withdraw ticket
  | giveUp key ticket => exact h.giveUp key ticket
  | enter key => exact h.enter key

theorem run (h : s.Sound) (evs : List Event) : (s.run evs).Sound := by
  induction evs generalizing s with
  | nil => exact h
  | cons ev evs ih => exact ih (h.step ev)

end Sound

/--
What tasks rely on. At most one token of a key is held; all claims of a key are on the slot that the map has for it, and
no prune or sweep takes that one away; a key without claims can be locked at once; the active keys are those with claims;
and after a lookup the map has no slots but those of claimed keys.
-/
structure Safe (s : Slots) : Prop where
  alone : ∀ key, s.claims.countP (fun c => decide (c.key = key) && c.holds) ≤ 1
  shared : ∀ c ∈ s.claims, s.slotOf? c.key = some c.slot
  kept : ∀ c ∈ s.claims, (∀ key, (s.prune key).slotOf? c.key = some c.slot) ∧ s.sweep.slotOf? c.key = some c.slot
  free : ∀ key, (∀ c ∈ s.claims, c.key ≠ key) → (s.enter key).2.granted (s.enter key).1 = true
  counted : s.activeKeys = (s.claims.map (·.key)).dedup.length
  swept : ∀ key, ∀ e ∈ (s.claim key).2.entries, ∃ c ∈ (s.claim key).2.claims, c.key = e.1

namespace Sound

variable {s : Slots} {key : String}

theorem shared (h : s.Sound) {c : Claim} (hc : c ∈ s.claims) : s.slotOf? c.key = some c.slot :=
  h.slotOf?_eq (h.mapped c hc)

/--
Claims on one slot are claims of one key.
-/
theorem key_eq (h : s.Sound) {e : String × Nat} (he : e ∈ s.entries) {c : Claim} (hc : c ∈ s.claims)
    (hslot : c.slot = e.2) : c.key = e.1 :=
  congrArg Prod.fst (List.inj_on_of_nodup_map h.slots (h.mapped c hc) he hslot)

theorem length_le_one {cs : List Claim} (h : (cs.map (·.ticket)).Nodup)
    (hsame : ∀ c ∈ cs, ∀ d ∈ cs, c.ticket = d.ticket) : cs.length ≤ 1 := by
  match cs with
  | [] => simp
  | [c] => simp
  | c :: d :: cs => simp [hsame c (by simp) d (by simp)] at h

theorem alone_key (h : s.Sound) (key : String) : s.claims.countP (fun c => decide (c.key = key) && c.holds) ≤ 1 := by
  rw [List.countP_eq_length_filter]
  apply length_le_one (h.tickets.sublist (List.filter_sublist.map _))
  intro c hc d hd
  simp only [List.mem_filter, Bool.and_eq_true, decide_eq_true_eq] at hc hd
  obtain ⟨hc, rfl, hcholds⟩ := hc
  obtain ⟨hd, hkey, hdholds⟩ := hd
  apply h.alone c hc d hd hcholds hdholds
  apply Option.some.inj
  rw [← h.shared hc, ← h.shared hd, hkey]

theorem counted (h : s.Sound) : s.activeKeys = (s.claims.map (·.key)).dedup.length := by
  unfold activeKeys
  rw [← List.length_map (·.1)]
  apply List.Perm.length_eq
  rw [List.perm_ext_iff_of_nodup (h.keys.sublist (List.filter_sublist.map _)) (List.nodup_dedup _)]
  intro key
  rw [List.mem_dedup, List.mem_map, List.mem_map]
  constructor
  . rintro ⟨e, he, rfl⟩
    obtain ⟨he, hclaimed⟩ := List.mem_filter.1 he
    rw [Bool.not_eq_true', isIdle_eq_false] at hclaimed
    obtain ⟨c, hc, hslot⟩ := hclaimed
    exact ⟨c, hc, h.key_eq he hc hslot⟩
  . rintro ⟨c, hc, rfl⟩
    refine ⟨(c.key, c.slot), List.mem_filter.2 ⟨h.mapped c hc, ?_⟩, rfl⟩
    rw [Bool.not_eq_true', isIdle_eq_false]
    exact ⟨c, hc, rfl⟩

/--
A lookup puts one more claim on the slot of its key.
-/
theorem claims_claim (h : s.Sound) (key : String) : ∃ slot, (key, slot) ∈ (s.claim key).2.entries ∧
    (s.claim key).2.claims = s.claims ++ [{ ticket := (s.claim key).1, key, slot, holds := false }] := by
  obtain ⟨_, hentry, hclaims⟩ := h.sweep.ensure key
  refine ⟨_, hentry, ?_⟩
  show (s.sweep.ensure key).2.claims ++ [_] = _
  rw [hclaims]
  rfl

theorem entries_claim {e : String × Nat} (he : e ∈ (s.claim key).2.entries) : e ∈ s.sweep.entries ∨ e.1 = key := by
  have he : e ∈ (s.sweep.ensure key).2.entries := he
  unfold Slots.ensure at he
  split at he
  . exact .inl he
  . rcases List.mem_append.1 he with he | he
    . exact .inl he
    . rw [List.mem_singleton.1 he]
      exact .inr rfl

theorem swept (h : s.Sound) (key : String) :
    ∀ e ∈ (s.claim key).2.entries, ∃ c ∈ (s.claim key).2.claims, c.key = e.1 := by
  intro e he
  obtain ⟨slot, _, hclaims⟩ := h.claims_claim key
  rw [hclaims]
  rcases entries_claim he with he | rfl
  . obtain ⟨he, hclaimed⟩ := List.mem_filter.1 he
    rw [Bool.not_eq_true', isIdle_eq_false] at hclaimed
    obtain ⟨c, hc, hslot⟩ := hclaimed
    exact ⟨c, List.mem_append_left _ hc, h.key_eq he hc hslot⟩
  . exact ⟨_, List.mem_append_right _ (List.mem_singleton_self _), rfl⟩

/--
To enter a key is to claim it and to grant its slot.
-/
theorem enter_eq (h : s.Sound) (hentry : (key, slot) ∈ (s.claim key).2.entries) :
    s.enter key = ((s.claim key).1, (s.claim key).2.grant slot) := by
  unfold Slots.enter
  dsimp only
  rw [(h.claim key).slotOf?_eq hentry]

theorem free (h : s.Sound) (hkey : ∀ c ∈ s.claims, c.key ≠ key) : (s.enter key).2.granted (s.enter key).1 = true := by
  have h' := h.claim key
  obtain ⟨slot, hentry, hclaims⟩ := h.claims_claim key
  -- the only claim on the slot is the new one, which waits
  have honly : ∀ c ∈ (s.claim key).2.claims, c.slot = slot → c.ticket = (s.claim key).1 ∧ c.holds = false := by
    intro c hc hslot
    have hckey : c.key = key := h'.key_eq hentry hc hslot
    rw [hclaims] at hc
    rcases List.mem_append.1 hc with hc | hc
    . exact absurd hckey (hkey c hc)
    . rw [List.mem_singleton.1 hc]
      exact ⟨rfl, rfl⟩
  have hfree : (s.claim key).2.isHeld slot = false := isHeld_eq_false.2 fun c hc hslot => (honly c hc hslot).2
  rw [h.enter_eq hentry, Slots.grant, hfree]
  rcases grantOldest_eq slot h'.tickets with ⟨hnone, _⟩ | ⟨c, hc, hslot, heq⟩
  . refine absurd rfl (hnone { ticket := (s.claim key).1, key, slot, holds := false } ?_)
    rw [hclaims]
    exact List.mem_append_right _ (List.mem_singleton_self _)
  . obtain ⟨hticket, _⟩ := honly c hc hslot
    rw [← hticket]
    show ((grantOldest slot (s.claim key).2.claims).any fun d => d.ticket = c.ticket && d.holds) = true
    rw [heq, List.any_eq_true]
    refine ⟨Slots.hold c.ticket c, List.mem_map_of_mem hc, ?_⟩
    simp [Slots.hold]

theorem safe (h : s.Sound) : s.Safe where
  alone := h.alone_key
  shared := fun _ => h.shared
  kept := fun _ hc => ⟨fun key => (h.prune key).shared hc, h.sweep.shared hc⟩
  free := fun _ => h.free
  counted := h.counted
  swept := h.swept

end Sound

/--
Over every interleaving of the steps of any number of tasks on any keys, the locks of a process are safe.
-/
theorem run_safe (evs : List Event) : (run {} evs).Safe := (Sound.empty.run evs).safe

/--
The pruning that follows the first claim comes when another task waits for the key again: the slot stays, and a third task
comes to the same one.
-/
example : (run {} [.lookup "m", .take 1, .leave 1, .lookup "m", .prune "m", .lookup "m"]).claims.map (·.slot) = [2, 2] := by
  decide +kernel

end Slots

end StatusTimeline
