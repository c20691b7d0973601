import StatusTimeline.Proofs.Lock.Slots

/-!
This module contains the locks of one process between the operations of its users. Nobody then waits for a slot that is
free, so that to claim a key and to give the claim up again leaves all other claims as they are, whether the claim was
granted or not.
-/

namespace StatusTimeline

namespace Slots

structure Settled (s : Slots) : Prop where
  sound : s.Sound
  held : ∀ c ∈ s.claims, s.isHeld c.slot = true

variable {s : Slots} {key : String} {slot ticket : Nat}

theorem isHeld_iff : s.isHeld slot = true ↔ ∃ c ∈ s.claims, c.slot = slot ∧ c.holds = true := by
  simp [isHeld]

theorem claims_grant (hsound : s.Sound) (h : s.isHeld slot = true ∨ ∀ c ∈ s.claims, c.slot ≠ slot) :
    (s.grant slot).claims = s.claims := by
  unfold grant
  split
  . rfl
  . next hfree =>
    have hnone := h.resolve_left hfree
    rcases grantOldest_eq slot hsound.tickets with ⟨_, heq⟩ | ⟨c, hc, hslot, _⟩
    . exact heq
    . exact absurd hslot (hnone c hc)

/--
When a slot is granted, no claim on it waits for a free slot any longer.
-/
theorem settled_grant (hsound : s.Sound) (h : ∀ c ∈ s.claims, c.slot ≠ slot → s.isHeld c.slot = true) :
    (s.grant slot).Settled := by
  refine ⟨hsound.grant slot, ?_⟩
  by_cases hheld : s.isHeld slot = true
  . have hsame : s.grant slot = s := if_pos hheld
    rw [hsame]
    intro c hc
    by_cases hslot : c.slot = slot
    . rw [hslot]
      exact hheld
    . exact h c hc hslot
  . have hgrant : s.grant slot = { s with claims := grantOldest slot s.claims } := if_neg hheld
    rw [hgrant]
    rcases grantOldest_eq slot hsound.tickets with ⟨hnone, heq⟩ | ⟨c, hc, hslot, heq⟩
    . rw [heq]
      exact fun d hd => h d hd (hnone d hd)
    . rw [heq, List.forall_mem_map]
      intro d hd
      rw [(hold_kept c.ticket d).2.2, isHeld_iff]
      by_cases hd' : d.slot = slot
      . refine ⟨hold c.ticket c, List.mem_map_of_mem hc, ?_, ?_⟩
        . rw [(hold_kept c.ticket c).2.2, hslot, hd']
        . simp [hold]
      . obtain ⟨x, hx, hxslot, hxholds⟩ := isHeld_iff.1 (h d hd hd')
        refine ⟨hold c.ticket x, List.mem_map_of_mem hx, ?_, ?_⟩
        . rw [(hold_kept c.ticket x).2.2, hxslot]
        . unfold hold
          split <;> simp [hxholds]

namespace Sound

theorem ticket_ne (h : s.Sound) {c : Claim} (hc : c ∈ s.claims) : c.ticket ≠ (s.claim key).1 := by
  obtain ⟨_, _, hclaims⟩ := h.claims_claim key
  have hnodup := (h.claim key).tickets
  rw [hclaims, List.map_append, List.nodup_append] at hnodup
  exact hnodup.2.2 _ (List.mem_map_of_mem hc) _ (by simp)

end Sound

namespace Settled

theorem empty : Settled {} := ⟨Sound.empty, by simp⟩

theorem slot_ne_of_free (h : s.Settled) (hfree : s.isHeld slot = false) : ∀ c ∈ s.claims, c.slot ≠ slot := by
  intro c hc hslot
  have hholds := h.held c hc
  rw [hslot, hfree] at hholds
  cases hholds

theorem enter (h : s.Settled) (key : String) : (s.enter key).2.Settled := by
  obtain ⟨slot, hentry, hclaims⟩ := h.sound.claims_claim key
  rw [h.sound.enter_eq hentry]
  apply settled_grant (h.sound.claim key)
  rw [hclaims]
  intro c hc hslot
  rcases List.mem_append.1 hc with hc | hc
  . obtain ⟨x, hx, hheld⟩ := isHeld_iff.1 (h.held c hc)
    rw [isHeld_iff, hclaims]
    exact ⟨x, List.mem_append_left _ hx, hheld⟩
  . rw [List.mem_singleton.1 hc] at hslot
    exact absurd rfl hslot

theorem withdraw (h : s.Settled) (ticket : Nat) : (s.withdraw ticket).Settled := by
  unfold Slots.withdraw
  split
  . exact h
  . next c hfind =>
    have hc : c ∈ s.claims := List.mem_of_find?_eq_some hfind
    have hticket : c.ticket = ticket := by simpa using List.find?_some hfind
    apply settled_grant (h.sound.leave ticket)
    intro d hd hslot
    obtain ⟨x, hx, hxslot, hxholds⟩ := isHeld_iff.1 (h.held d (List.mem_filter.1 hd).1)
    refine isHeld_iff.2 ⟨x, List.mem_filter.2 ⟨hx, ?_⟩, hxslot, hxholds⟩
    -- the claim that goes is on another slot
    have hne : x.ticket ≠ ticket := by
      intro heq
      have hsame : x = c := List.inj_on_of_nodup_map h.sound.tickets hx hc (heq.trans hticket.symm)
      rw [hsame] at hxslot
      exact hslot hxslot.symm
    simpa using hne

theorem giveUp (h : s.Settled) (key : String) (ticket : Nat) : (s.giveUp key ticket).Settled :=
  ⟨h.sound.giveUp key ticket, (h.withdraw ticket).held⟩

/--
A new claim holds its slot exactly if nobody else does.
-/
theorem claims_enter (h : s.Settled) (key : String) :
    ∃ slot, (s.enter key).2.claims = s.claims ++ [{ ticket := (s.enter key).1, key, slot, holds := !s.isHeld slot }] := by
  obtain ⟨slot, hentry, hclaims⟩ := h.sound.claims_claim key
  refine ⟨slot, ?_⟩
  rw [h.sound.enter_eq hentry]
  cases hheld : s.isHeld slot with
  | true =>
    have hstill : (s.claim key).2.isHeld slot = true := by
      obtain ⟨x, hx, hxheld⟩ := isHeld_iff.1 hheld
      rw [isHeld_iff, hclaims]
      exact ⟨x, List.mem_append_left _ hx, hxheld⟩
    rw [claims_grant (h.sound.claim key) (.inl hstill), hclaims]
    rfl
  | false =>
    have hnone := h.slot_ne_of_free hheld
    have hnew : ∀ c ∈ (s.claim key).2.claims, c.slot = slot → c.ticket = (s.claim key).1 ∧ c.holds = false := by
      rw [hclaims, List.forall_mem_append, List.forall_mem_singleton]
      exact ⟨fun c hc hslot => absurd hslot (hnone c hc), fun _ => ⟨rfl, rfl⟩⟩
    have hfree : (s.claim key).2.isHeld slot = false := isHeld_eq_false.2 fun c hc hslot => (hnew c hc hslot).2
    rw [Slots.grant, hfree]
    rcases grantOldest_eq slot (h.sound.claim key).tickets with ⟨hleft, _⟩ | ⟨c, hc, hslot, heq⟩
    . refine absurd rfl (hleft { ticket := (s.claim key).1, key, slot, holds := false } ?_)
      rw [hclaims]
      exact List.mem_append_right _ (List.mem_singleton_self _)
    . show grantOldest slot (s.claim key).2.claims = _
      rw [heq, (hnew c hc hslot).1, hclaims, List.map_append, map_hold_of_ne fun d hd => h.sound.ticket_ne hd]
      simp [hold]

theorem ticket_ne_enter (h : s.Settled) (key : String) : ∀ c ∈ s.claims, c.ticket ≠ (s.enter key).1 := by
  obtain ⟨_, hentry, _⟩ := h.sound.claims_claim key
  rw [h.sound.enter_eq hentry]
  exact fun c hc => h.sound.ticket_ne hc

/--
A key is granted at once only while nobody claims it.
-/
theorem free_of_granted (h : s.Settled) (hgranted : (s.enter key).2.granted (s.enter key).1 = true) :
    ∀ c ∈ s.claims, c.key ≠ key := by
  obtain ⟨slot, hclaims⟩ := h.claims_enter key
  have hfree : s.isHeld slot = false := by
    obtain ⟨c, hc, hticket⟩ := List.any_eq_true.1 hgranted
    obtain ⟨hticket, hholds⟩ := Bool.and_eq_true_iff.1 hticket
    rw [hclaims] at hc
    rcases List.mem_append.1 hc with hc | hc
    . exact absurd (of_decide_eq_true hticket) (h.ticket_ne_enter key c hc)
    . rw [List.mem_singleton.1 hc] at hholds
      simpa using hholds
  intro c hc hkey
  have hmapped : ∀ d ∈ (s.enter key).2.claims, (d.key, d.slot) ∈ (s.enter key).2.entries := (h.enter key).sound.mapped
  rw [hclaims, List.forall_mem_append, List.forall_mem_singleton] at hmapped
  have hpair := List.inj_on_of_nodup_map (h.enter key).sound.keys (hmapped.1 c hc) hmapped.2 hkey
  exact h.slot_ne_of_free hfree c hc (congrArg Prod.snd hpair)

/--
To claim a key and to give the claim up leaves the claims as they were.
-/
theorem claims_giveUp_enter (h : s.Settled) (key : String) :
    ((s.enter key).2.giveUp key (s.enter key).1).claims = s.claims := by
  obtain ⟨slot, hclaims⟩ := h.claims_enter key
  have hne := h.ticket_ne_enter key
  have hfind : (s.enter key).2.claims.find? (·.ticket = (s.enter key).1) =
      some { ticket := (s.enter key).1, key, slot, holds := !s.isHeld slot } := by
    rw [hclaims, List.find?_append, List.find?_eq_none.2 (by simpa using hne)]
    simp
  have hleft : ((s.enter key).2.leave (s.enter key).1).claims = s.claims := by
    show (s.enter key).2.claims.filter _ = _
    rw [hclaims, List.filter_append, List.filter_eq_self.2 (by simpa using hne)]
    simp
  show ((s.enter key).2.withdraw (s.enter key).1).claims = _
  unfold Slots.withdraw
  rw [hfind]
  show (((s.enter key).2.leave (s.enter key).1).grant slot).claims = _
  refine (claims_grant ((h.sound.enter key).leave _) ?_).trans hleft
  -- the slot is held still, or nobody else claims it
  rw [isHeld_iff, hleft, ← isHeld_iff]
  cases hheld : s.isHeld slot with
  | true => exact .inl rfl
  | false => exact .inr (h.slot_ne_of_free hheld)

end Settled

end Slots

end StatusTimeline
