import Mathlib.Algebra.Ring.Nat
import Mathlib.Data.List.Basic
import StatusTimeline.Simulation.Run

/-!
This module contains the wait for a lease: attempts to acquire it, and the pauses between them. It ends with the first
attempt that does not merely find the lease taken, and else with one that is made when all of the time has passed.
-/

namespace StatusTimeline

namespace Span

/--
The longest length of time that settings can give: as many seconds as 64 bits count, and almost one more.
-/
def largest : Span := .ofParts (UInt64.size - 1) 999999999

end Span

/--
The wait that an error tells of. Its milliseconds are counted with 64 bits.
-/
def Waited.ofSpan (s : Span) : Waited := .millis (s.millis % UInt64.size)

namespace Acquisition

inductive Attempt where
  | granted
  | failed (e : Error)
  | timedOut (waited : Span)
  | paused (pause : Span) (next : Acquisition)
deriving DecidableEq, Repr

/--
What an attempt comes to, given what the table of leases says to it.
-/
def attempt (a : Acquisition) : Except Error Bool → Attempt
  | .error e => .failed e
  | .ok true => .granted
  | .ok false =>
    match a.pause? with
    | none => .timedOut a.waited
    | some (pause, next) => .paused pause next

/--
What a caller gets from an attempt that is the last one.
-/
def Attempt.result? (key : String) (lease : Nat) : Attempt → Option (Except Error Token)
  | granted => some (.ok { key, hold := .lease lease })
  | failed e => some (.error e)
  | timedOut waited => some (.error (.lockTimeout key (.ofSpan waited)))
  | paused _ _ => none

end Acquisition

namespace Simulation.World

/--
How a simulated world goes on after an attempt. It tells no length of a wait, and counts time in milliseconds.
-/
def locking (w : World) (key : String) (lease : Nat) : Acquisition.Attempt → Locking
  | .granted => .granted { key, hold := .lease lease }
  | .failed e => .refused e
  | .timedOut _ => .refused (.lockTimeout key .simulated)
  | .paused pause next => .waiting (.lease key lease next (w.now + max pause.millis 1))

/--
A simulated world makes just these attempts at the table of leases in its database.
-/
theorem tryLease_eq_locking {w : World} {db : Database} (hdb : w.backing = .database db) (terms : Terms) (key : String)
    (lease : Nat) (a : Acquisition) :
    (w.tryLease terms key lease a).1 =
      w.locking key lease (a.attempt (db.tryLease w.clock key lease terms.ttl).1) := by
  obtain ⟨answer, db', hanswer⟩ : ∃ answer db', db.tryLease w.clock key lease terms.ttl = (answer, db') := ⟨_, _, rfl⟩
  simp only [tryLease, hdb, hanswer]
  match answer with
  | .error e => rfl
  | .ok true => rfl
  | .ok false =>
    simp only [Acquisition.attempt]
    rcases a.pause? with _ | ⟨pause, next⟩
    . rfl
    . rfl

end Simulation.World

namespace Acquisition

/--
The course of a wait: the states in which its attempts are made, the pauses between these, and what it comes to.
-/
structure Course where
  attempts : List Acquisition
  pauses : List Span
  result : Except Error Token

/--
The wait from a state on takes a course if the attempts in turn have these outcomes, are made without delay, and the
pauses last as long as they are to.
-/
inductive Takes (key : String) (lease : Nat) : Acquisition → (Nat → Except Error Bool) → Course → Prop where
  | ended {a : Acquisition} {outcomes : Nat → Except Error Bool} {result : Except Error Token}
      (hresult : (a.attempt (outcomes 0)).result? key lease = some result) :
      Takes key lease a outcomes { attempts := [a], pauses := [], result }
  | paused {a next : Acquisition} {outcomes : Nat → Except Error Bool} {pause : Span} {c : Course}
      (hattempt : a.attempt (outcomes 0) = .paused pause next)
      (hrest : Takes key lease next (fun n => outcomes (n + 1)) c) :
      Takes key lease a outcomes
        { attempts := a :: c.attempts, pauses := pause :: c.pauses, result := c.result }

/--
A state that a wait can be in: the next pause takes time and can be doubled, and no more time has passed than there is.
-/
structure Sound (a : Acquisition) : Prop where
  backoff_pos : 0 < a.backoff.nanos
  doubles : 2 * a.backoff.nanos ≤ Span.largest.nanos
  within : a.waited.nanos ≤ a.timeout.nanos

/--
A pause leads from one state to another.
-/
structure Leads (a : Acquisition) (pause : Span) (next : Acquisition) : Prop where
  timeout : next.timeout = a.timeout
  waited : next.waited.nanos = a.waited.nanos + pause.nanos
  pause_pos : 0 < pause.nanos
  pause_le : pause.nanos ≤ a.backoff.nanos
  capped : next.backoff.nanos ≤ longestPause.nanos
  sound : next.Sound

variable {key : String} {lease : Nat} {a b next : Acquisition} {outcomes : Nat → Except Error Bool} {pause : Span}
  {c c' : Course} {outcome : Except Error Bool} {result : Except Error Token}

theorem attempt_of_timeout (h : a.timeout.nanos ≤ a.waited.nanos) : a.attempt (.ok false) = .timedOut a.waited := by
  simp only [attempt, pause?, h, if_true]

theorem attempt_of_lt (h : a.waited.nanos < a.timeout.nanos) (hsound : a.Sound) :
    ∃ pause next, a.attempt (.ok false) = .paused pause next ∧ a.Leads pause next := by
  have hleft : ¬ a.timeout.nanos ≤ a.waited.nanos := Nat.not_le.2 h
  have hpos := hsound.backoff_pos
  have hlongest : 0 < longestPause.nanos := by decide
  have hcap : 2 * longestPause.nanos ≤ Span.largest.nanos := by decide
  simp only [attempt, pause?, hleft, if_false]
  refine ⟨_, _, rfl, ?_⟩
  constructor
  . rfl
  . rfl
  . show 0 < min a.backoff.nanos (a.timeout.nanos - a.waited.nanos)
    omega
  . exact Nat.min_le_left _ _
  . exact Nat.min_le_right _ _
  . constructor
    . show 0 < min (2 * a.backoff.nanos) longestPause.nanos
      omega
    . show 2 * min (2 * a.backoff.nanos) longestPause.nanos ≤ Span.largest.nanos
      omega
    . show a.waited.nanos + min a.backoff.nanos (a.timeout.nanos - a.waited.nanos) ≤ a.timeout.nanos
      omega

/--
An attempt that is not the last one found the lease taken, with time left.
-/
theorem leads_of_attempt (h : a.attempt outcome = .paused pause next) (hsound : a.Sound) :
    outcome = .ok false ∧ a.Leads pause next := by
  match outcome, h with
  | .ok false, h =>
    rcases Nat.lt_or_ge a.waited.nanos a.timeout.nanos with hlt | hge
    . obtain ⟨pause', next', hattempt, hleads⟩ := attempt_of_lt hlt hsound
      cases hattempt.symm.trans h
      exact ⟨rfl, hleads⟩
    . rw [attempt_of_timeout hge] at h
      cases h

/--
What an attempt that is the last one comes to.
-/
def Ends (key : String) (lease : Nat) (a : Acquisition) (outcome : Except Error Bool)
    (result : Except Error Token) : Prop :=
  match outcome with
  | .ok true => result = .ok { key, hold := .lease lease }
  | .error e => result = .error e
  | .ok false => a.waited = a.timeout ∧ result = .error (.lockTimeout key (.ofSpan a.timeout))

theorem ends_of_result? (h : (a.attempt outcome).result? key lease = some result) (hsound : a.Sound) :
    a.Ends key lease outcome result := by
  match outcome, h with
  | .ok true, h =>
    cases h
    rfl
  | .error e, h =>
    cases h
    rfl
  | .ok false, h =>
    rcases Nat.lt_or_ge a.waited.nanos a.timeout.nanos with hlt | hge
    . obtain ⟨pause, next, hattempt, -⟩ := attempt_of_lt hlt hsound
      rw [hattempt] at h
      cases h
    . have hwaited : a.waited = a.timeout := congrArg Span.mk (Nat.le_antisymm hsound.within hge)
      rw [attempt_of_timeout hge, hwaited] at h
      cases h
      exact ⟨hwaited, rfl⟩

/--
A wait ends: each pause takes some of the time that is left.
-/
theorem exists_takes (key : String) (lease : Nat) (a : Acquisition) (hsound : a.Sound)
    (outcomes : Nat → Except Error Bool) : ∃ c, Takes key lease a outcomes c := by
  match h : a.attempt (outcomes 0) with
  | .granted => exact ⟨_, .ended (congrArg (Attempt.result? key lease) h)⟩
  | .failed e => exact ⟨_, .ended (congrArg (Attempt.result? key lease) h)⟩
  | .timedOut waited => exact ⟨_, .ended (congrArg (Attempt.result? key lease) h)⟩
  | .paused pause next =>
    obtain ⟨-, hleads⟩ := leads_of_attempt h hsound
    obtain ⟨c, hrest⟩ := exists_takes key lease next hleads.sound fun n => outcomes (n + 1)
    exact ⟨_, .paused h hrest⟩
termination_by a.timeout.nanos - a.waited.nanos
decreasing_by
  have htimeout := congrArg Span.nanos hleads.timeout
  have hwaited := hleads.waited
  have hpause := hleads.pause_pos
  have hwithin := hleads.sound.within
  omega

namespace Takes

theorem unique (h : Takes key lease a outcomes c) (h' : Takes key lease a outcomes c') : c' = c := by
  induction h generalizing c' with
  | ended hresult =>
    cases h' with
    | ended hresult' =>
      cases hresult.symm.trans hresult'
      rfl
    | paused hattempt' hrest' =>
      rw [hattempt'] at hresult
      cases hresult
  | paused hattempt hrest ih =>
    cases h' with
    | ended hresult' =>
      rw [hattempt] at hresult'
      cases hresult'
    | paused hattempt' hrest' =>
      cases hattempt.symm.trans hattempt'
      cases ih hrest'
      rfl

theorem sound (h : Takes key lease a outcomes c) (hsound : a.Sound) :
    ∀ b ∈ c.attempts, b.Sound ∧ b.timeout = a.timeout := by
  induction h with
  | ended hresult => simp [hsound]
  | paused hattempt hrest ih =>
    obtain ⟨-, hleads⟩ := leads_of_attempt hattempt hsound
    rintro b (_ | ⟨_, hb⟩)
    . exact ⟨hsound, rfl⟩
    . rw [← hleads.timeout]
      exact ih hleads.sound b hb

theorem length_attempts (h : Takes key lease a outcomes c) : c.attempts.length = c.pauses.length + 1 := by
  induction h with
  | ended hresult => rfl
  | paused hattempt hrest ih => exact congrArg (· + 1) ih

/--
An attempt is made when the pauses before it have passed.
-/
theorem waited_eq (h : Takes key lease a outcomes c) (hsound : a.Sound) {n : Nat} (hb : c.attempts[n]? = some b) :
    b.waited.nanos = a.waited.nanos + ((c.pauses.take n).map (·.nanos)).sum := by
  induction h generalizing n with
  | ended hresult =>
    match n, hb with
    | 0, hb =>
      cases hb
      rfl
  | paused hattempt hrest ih =>
    obtain ⟨-, hleads⟩ := leads_of_attempt hattempt hsound
    match n, hb with
    | 0, hb =>
      cases hb
      rfl
    | n + 1, hb =>
      rw [ih hleads.sound hb, hleads.waited, List.take_succ_cons, List.map_cons, List.sum_cons, Nat.add_assoc]

theorem pauses_pos (h : Takes key lease a outcomes c) (hsound : a.Sound) : ∀ p ∈ c.pauses, 0 < p.nanos := by
  induction h with
  | ended hresult => simp
  | paused hattempt hrest ih =>
    obtain ⟨-, hleads⟩ := leads_of_attempt hattempt hsound
    rintro p (_ | ⟨_, hp⟩)
    . exact hleads.pause_pos
    . exact ih hleads.sound p hp

theorem waited_le (h : Takes key lease a outcomes c) (hsound : a.Sound) :
    ∀ b ∈ c.attempts, a.waited.nanos ≤ b.waited.nanos := by
  intro b hb
  obtain ⟨n, hn⟩ := List.getElem?_of_mem hb
  rw [h.waited_eq hsound hn]
  exact Nat.le_add_right _ _

theorem waited_increases (h : Takes key lease a outcomes c) (hsound : a.Sound) :
    c.attempts.Pairwise fun b b' => b.waited.nanos < b'.waited.nanos := by
  induction h with
  | ended hresult => exact List.pairwise_singleton _ _
  | paused hattempt hrest ih =>
    obtain ⟨-, hleads⟩ := leads_of_attempt hattempt hsound
    refine .cons ?_ (ih hleads.sound)
    intro b hb
    have hle := hrest.waited_le hleads.sound b hb
    have hwaited := hleads.waited
    have hpause := hleads.pause_pos
    omega

/--
All attempts but the last one found the lease taken, and the last one ends the wait.
-/
theorem refused_and_ends (h : Takes key lease a outcomes c) (hsound : a.Sound) :
    (∀ n < c.pauses.length, outcomes n = .ok false) ∧
      ∃ b, c.attempts.getLast? = some b ∧ b.Ends key lease (outcomes c.pauses.length) c.result := by
  induction h with
  | @ended a outcomes result hresult =>
    constructor
    . intro n hn
      exact absurd hn (Nat.not_lt_zero n)
    . exact ⟨a, rfl, ends_of_result? hresult hsound⟩
  | @paused a next outcomes pause c hattempt hrest ih =>
    obtain ⟨houtcome, hleads⟩ := leads_of_attempt hattempt hsound
    obtain ⟨hrefused, b, hb, hends⟩ := ih hleads.sound
    constructor
    . intro n hn
      match n with
      | 0 => exact houtcome
      | n + 1 => exact hrefused n (Nat.lt_of_succ_lt_succ hn)
    . refine ⟨b, ?_, hends⟩
      rw [List.getLast?_cons, hb]
      rfl

/--
Once the next pause is no longer than the longest one, none is.
-/
theorem pauses_le (h : Takes key lease a outcomes c) (hsound : a.Sound) (hcap : a.backoff.nanos ≤ longestPause.nanos) :
    ∀ p ∈ c.pauses, p.nanos ≤ longestPause.nanos := by
  induction h with
  | ended hresult => simp
  | paused hattempt hrest ih =>
    obtain ⟨-, hleads⟩ := leads_of_attempt hattempt hsound
    rintro p (_ | ⟨_, hp⟩)
    . exact Nat.le_trans hleads.pause_le hcap
    . exact ih hleads.sound hleads.capped p hp

theorem tail_pauses_le (h : Takes key lease a outcomes c) (hsound : a.Sound) :
    ∀ p ∈ c.pauses.tail, p.nanos ≤ longestPause.nanos := by
  cases h with
  | ended hresult => simp
  | paused hattempt hrest =>
    obtain ⟨-, hleads⟩ := leads_of_attempt hattempt hsound
    exact hrest.pauses_le hleads.sound hleads.capped

theorem total_le (h : Takes key lease a outcomes c) (hsound : a.Sound) :
    a.waited.nanos + (c.pauses.map (·.nanos)).sum ≤ a.timeout.nanos := by
  have hlast : c.pauses.length < c.attempts.length := by
    rw [h.length_attempts]
    exact Nat.lt_succ_self _
  obtain ⟨hb, htimeout⟩ := h.sound hsound _ (List.getElem_mem hlast)
  have hwithin := hb.within
  rw [htimeout, h.waited_eq hsound (List.getElem?_eq_getElem hlast), List.take_length] at hwithin
  exact hwithin

/--
There is no pause when there is no time for one.
-/
theorem pauses_of_timeout (h : Takes key lease a outcomes c) (hsound : a.Sound)
    (htimeout : a.timeout.nanos ≤ a.waited.nanos) : c.pauses = [] := by
  cases h with
  | ended hresult => rfl
  | paused hattempt hrest =>
    obtain ⟨-, hleads⟩ := leads_of_attempt hattempt hsound
    have hwithin := hleads.sound.within
    rw [hleads.timeout, hleads.waited] at hwithin
    have hpause := hleads.pause_pos
    omega

end Takes

/--
What holds of each course of a wait that may take so long, given what the attempts come to.
-/
structure Course.Bounded (c : Course) (key : String) (lease : Nat) (timeout : Span)
    (outcomes : Nat → Except Error Bool) : Prop where
  counted : c.attempts.length = c.pauses.length + 1
  made : ∀ n b, c.attempts[n]? = some b → b.waited.nanos = ((c.pauses.take n).map (·.nanos)).sum
  increases : c.attempts.Pairwise fun b b' => b.waited.nanos < b'.waited.nanos
  sound : ∀ b ∈ c.attempts, b.Sound ∧ b.timeout = timeout
  single : timeout.nanos = 0 → c.pauses = []
  refused : ∀ n < c.pauses.length, outcomes n = .ok false
  ends : ∃ b, c.attempts.getLast? = some b ∧ b.Ends key lease (outcomes c.pauses.length) c.result
  pauses_pos : ∀ p ∈ c.pauses, 0 < p.nanos
  total : (c.pauses.map (·.nanos)).sum ≤ timeout.nanos
  capped : ∀ p ∈ c.pauses.tail, p.nanos ≤ (Span.ofMillis 500).nanos

/--
A wait for a lease ends and keeps within its bounds, whatever its attempts come to.
-/
theorem wait_bounded (key : String) (lease : Nat) (timeout poll : Span) (outcomes : Nat → Except Error Bool)
    (hpoll : 0 < poll.nanos) (hhalf : poll.nanos ≤ Span.largest.nanos / 2) :
    (∃! c, Takes key lease { timeout, backoff := poll } outcomes c) ∧
      ∀ c, Takes key lease { timeout, backoff := poll } outcomes c → c.Bounded key lease timeout outcomes := by
  have hsound : Sound { timeout, backoff := poll } := {
    backoff_pos := hpoll
    doubles := by
      show 2 * poll.nanos ≤ Span.largest.nanos
      omega
    within := Nat.zero_le _ }
  constructor
  . obtain ⟨c, hc⟩ := exists_takes key lease _ hsound outcomes
    exact ⟨c, hc, fun c' hc' => hc.unique hc'⟩
  . intro c hc
    obtain ⟨hrefused, hends⟩ := hc.refused_and_ends hsound
    exact {
      counted := hc.length_attempts
      made := fun n b hb => (hc.waited_eq hsound hb).trans (Nat.zero_add _)
      increases := hc.waited_increases hsound
      sound := hc.sound hsound
      single := fun hzero => hc.pauses_of_timeout hsound (Nat.le_of_eq hzero)
      refused := hrefused
      ends := hends
      pauses_pos := hc.pauses_pos hsound
      total := by simpa only [Nat.zero_add] using hc.total_le hsound
      capped := hc.tail_pauses_le hsound }

/--
A first pause may be longer than all later ones can be.
-/
theorem wait_bounded_long_pause :
    ∃ c, Takes "monitor" 1 { timeout := .ofMillis 1200, backoff := .ofMillis 700 } (fun _ => .ok false) c ∧
      c.pauses = [.ofMillis 700, .ofMillis 500] ∧ c.result = .error (.lockTimeout "monitor" (.millis 1200)) ∧
      c.Bounded "monitor" 1 (.ofMillis 1200) fun _ => .ok false := by
  have htakes : Takes "monitor" 1 { timeout := .ofMillis 1200, backoff := .ofMillis 700 } (fun _ => .ok false) _ :=
    .paused rfl (.paused rfl (.ended rfl))
  obtain ⟨-, hbounded⟩ := wait_bounded "monitor" 1 (.ofMillis 1200) (.ofMillis 700) (fun _ => .ok false) (by decide)
    (by decide)
  exact ⟨_, htakes, rfl, rfl, hbounded _ htakes⟩

end Acquisition

end StatusTimeline
