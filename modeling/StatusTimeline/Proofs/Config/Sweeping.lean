import StatusTimeline.Config.Timeline
import StatusTimeline.Proofs.Time.Calendar
import StatusTimeline.Simulation.Future

/-!
This module contains which of the settings that are accepted keep the sweeper going. What is kept may reach back beyond
the calendar, and sweeps may be asked for after no time at all: neither is refused, and either ends the sweeper.
-/

namespace StatusTimeline

/--
What the clock of a machine shows in the years 1970 to 9999. It shows no leap seconds.
-/
structure Instant.Shown (t : Instant) : Prop where
  ordinary : t.isLeap = false
  first : 1970 ≤ (Date.ofDay t.day).year
  last : (Date.ofDay t.day).year ≤ 9999

instance (t : Instant) : Decidable t.Shown :=
  decidable_of_iff (t.isLeap = false ∧ 1970 ≤ (Date.ofDay t.day).year ∧ (Date.ofDay t.day).year ≤ 9999)
    ⟨fun ⟨h, hf, hl⟩ => ⟨h, hf, hl⟩, fun ⟨h, hf, hl⟩ => ⟨h, hf, hl⟩⟩

namespace Retention

variable {now : Instant} {days : Nat}

theorem isSpan_ofDays (h : days < UInt32.size) : (ofDays days).isSpan = true := by
  have hsize : UInt32.size = 4294967296 := rfl
  apply decide_eq_true
  show ((days : Int) * 86400).natAbs ≤ 9223372036854775
  omega

/--
Going back by whole days leaves the calendar exactly where it has no such day.
-/
theorem cutoff?_ofDays (hnow : now.Shown) (hdays : days < UInt32.size) :
    (ofDays days).cutoff? now =
      if Date.firstDay + days ≤ now.day then some (.ofNanos (now.toNanos - days * 86400000000000)) else none := by
  obtain ⟨hstart, hend⟩ := Date.day_of_year hnow.first hnow.last
  have hsecond : 0 ≤ now.second := by
    unfold Instant.day at hstart
    omega
  have hreadable : now.isReadable = true := by simp [Instant.isReadable, hsecond, hnow.ordinary]
  have hshift : now.shift (-(ofDays days).seconds * 1000000000) =
      .ofNanos (now.toNanos - days * 86400000000000) := by
    rw [Instant.shift_of_not_leap hnow.ordinary]
    congr 1
    simp only [ofDays]
    omega
  have hday : (Instant.ofNanos (now.toNanos - days * 86400000000000)).day = now.day - days := by
    have hnano := now.nano_nonneg
    have hsmall := Instant.isLeap_eq_false.1 hnow.ordinary
    unfold Instant.day Instant.ofNanos
    rw [Instant.second_ofParts (by omega) (by omega)]
    unfold Instant.toNanos
    omega
  have hcalendar : (Instant.ofNanos (now.toNanos - days * 86400000000000)).inCalendar =
      decide (Date.firstDay + days ≤ now.day) := by
    rw [Instant.inCalendar, hday]
    have hlast : now.day - days ≤ Date.lastDay := by omega
    simp only [hlast, decide_true, Bool.and_true, decide_eq_decide]
    omega
  unfold cutoff?
  simp only [hshift, hreadable, isSpan_ofDays hdays, hcalendar, Bool.true_and, decide_eq_true_eq]

end Retention

namespace Simulation

namespace Future

variable {retention : Retention} {interval : Nat} {s : Session} {sessions : List Session}

/--
What becomes of a task that is polled in one session after another, in which all else may have changed meanwhile.
-/
def pollIn (f : Future) : List Session → Future
  | [] => f
  | s :: sessions => pollIn (Session.poll f s).1 sessions

theorem poll_sweeping (next : Nat) (hinterval : interval ≠ 0)
    (hcutoff : (retention.cutoff? s.world.clock).isSome = true) :
    ∃ next', (Session.poll (.sweeping retention interval next) s).1 = .sweeping retention interval next' := by
  obtain ⟨cutoff, hcutoff⟩ := Option.isSome_iff_exists.1 hcutoff
  have hsweep : (s.sweep retention).1 = true := by
    unfold Session.sweep
    rw [hcutoff]
  rw [Session.poll, if_neg hinterval]
  split
  . split
    . exact ⟨_, rfl⟩
    . next hended =>
      rw [hended] at hsweep
      cases hsweep
  . exact ⟨next, rfl⟩

theorem pollIn_sweeping (next : Nat) (hinterval : interval ≠ 0)
    (hcutoff : ∀ s ∈ sessions, (retention.cutoff? s.world.clock).isSome = true) :
    ∃ next', (sweeping retention interval next).pollIn sessions = .sweeping retention interval next' := by
  induction sessions generalizing next with
  | nil => exact ⟨next, rfl⟩
  | cons s sessions ih =>
    rw [List.forall_mem_cons] at hcutoff
    obtain ⟨next', hpoll⟩ := poll_sweeping next hinterval hcutoff.1
    rw [pollIn, hpoll]
    exact ih next' hcutoff.2

/--
A sweeper ends in a panic where it has no interval to wait, or no cutoff when it is to sweep.
-/
theorem poll_panicked {next : Nat} (h : interval = 0 ∨ next ≤ s.world.now ∧ retention.cutoff? s.world.clock = none) :
    (Session.poll (.sweeping retention interval next) s).1 = .finished .panicked := by
  rw [Session.poll]
  by_cases hinterval : interval = 0
  . rw [if_pos hinterval]
  . obtain ⟨hdue, hnone⟩ := h.resolve_left hinterval
    have hsweep : s.sweep retention = (false, s) := by
      unfold Session.sweep
      rw [hnone]
    rw [if_neg hinterval, if_pos hdue, hsweep]

end Future

end Simulation

theorem naturalBelow?_lt {bound n : Nat} {cs : List Char} (h : naturalBelow? bound cs = some n) : n < bound := by
  unfold naturalBelow? at h
  simpa using (Option.filter_eq_some_iff.1 h).2

theorem Environment.getOr_cases {α : Type} {env : Environment} {key : String} {parse : String → Option α}
    {default a : α} (h : env.getOr key parse default = .ok a) : a = default ∨ ∃ value, parse value = some a := by
  unfold getOr at h
  split at h
  . cases h
    exact .inl rfl
  . next value _ =>
    split at h
    . next hparse =>
      cases h
      exact .inr ⟨_, hparse⟩
    . cases h

namespace TimelineConfig

theorem bind_eq_ok {ε α β : Type} {x : Except ε α} {f : α → Except ε β} {b : β} (h : x >>= f = .ok b) :
    ∃ a, x = .ok a ∧ f a = .ok b := by
  cases x with
  | error e => cases h
  | ok a => exact ⟨a, rfl, h⟩

/--
What the environment says on retention and sweeps is taken over as it is.
-/
theorem ofEnvironment_eq_ok {env : Environment} {c : TimelineConfig} (h : ofEnvironment env = .ok c) :
    env.getOr "STATUSLINE_RETENTION_DAYS" Environment.natural32? 120 = .ok c.retentionDays ∧
      ∃ seconds, env.getOr "STATUSLINE_SWEEP_INTERVAL_SECS" Environment.natural64? 3600 = .ok seconds ∧
        c.sweepInterval = .ofSeconds seconds := by
  obtain ⟨backend, _, h⟩ := bind_eq_ok h
  obtain ⟨lockTimeout, _, h⟩ := bind_eq_ok h
  obtain ⟨leaseTtl, _, h⟩ := bind_eq_ok h
  obtain ⟨annotationTimeout, _, h⟩ := bind_eq_ok h
  obtain ⟨days, hdays, h⟩ := bind_eq_ok h
  obtain ⟨seconds, hseconds, h⟩ := bind_eq_ok h
  obtain ⟨bindAddress, _, h⟩ := bind_eq_ok h
  obtain ⟨_, _, h⟩ := bind_eq_ok h
  cases h
  exact ⟨hdays, seconds, hseconds, rfl⟩

/--
The task that sweeps as the settings say.
-/
def sweeper (c : TimelineConfig) : Simulation.Future := .sweeping c.retention c.sweepInterval.millis 0

/--
What the sweeper of settings does that keep closed intervals for so many days and ask for a sweep after so many seconds.
-/
structure Sweeps (c : TimelineConfig) (days seconds : Nat) : Prop where
  spawned : ∀ (s : Simulation.Session) (label : String),
    (s.spawnSweeper label c.retention c.sweepInterval.millis).1 = .ok .nothing ∧
      ∃ task ∈ (s.spawnSweeper label c.retention c.sweepInterval.millis).2.tasks, task.future = c.sweeper
  cutoff : ∀ now : Instant, now.Shown → c.retention.cutoff? now =
    if Date.firstDay + days ≤ now.day then some (.ofNanos (now.toNanos - days * 86400000000000)) else none
  interval : c.sweepInterval.millis = seconds * 1000
  lasting : (∀ sessions, (∀ s ∈ sessions, s.world.clock.Shown) → (c.sweeper.pollIn sessions).answer? = none) ↔
    Date.firstDay + days ≤ 0 ∧ seconds ≠ 0

section Lasting

variable {c : TimelineConfig} {days seconds : Nat}
  (hcutoff : ∀ now : Instant, now.Shown → c.retention.cutoff? now =
    if Date.firstDay + days ≤ now.day then some (.ofNanos (now.toNanos - days * 86400000000000)) else none)
  (hmillis : c.sweepInterval.millis = seconds * 1000)

include hcutoff hmillis

theorem lasting_of_reach (hreach : Date.firstDay + days ≤ 0) (hseconds : seconds ≠ 0)
    (sessions : List Simulation.Session) (hshown : ∀ s ∈ sessions, s.world.clock.Shown) :
    (c.sweeper.pollIn sessions).answer? = none := by
  have hsome : ∀ s ∈ sessions, (c.retention.cutoff? s.world.clock).isSome = true := by
    intro s hs
    have hday := (Date.day_of_year (hshown s hs).first (hshown s hs).last).1
    rw [hcutoff _ (hshown s hs), if_pos (by omega)]
    rfl
  obtain ⟨next, hnext⟩ := Simulation.Future.pollIn_sweeping 0 (by omega : c.sweepInterval.millis ≠ 0) hsome
  rw [sweeper, hnext]
  rfl

/--
A single poll at the beginning of 1970 ends the sweeper in all other cases.
-/
theorem reach_of_lasting
    (h : ∀ sessions, (∀ s ∈ sessions, s.world.clock.Shown) → (c.sweeper.pollIn sessions).answer? = none) :
    Date.firstDay + days ≤ 0 ∧ seconds ≠ 0 := by
  obtain ⟨s, hclock⟩ : ∃ s : Simulation.Session, s.world.clock = ⟨0⟩ :=
    ⟨{ world := { (default : Simulation.World) with clock := ⟨0⟩ } }, rfl⟩
  have hshown : s.world.clock.Shown := by
    rw [hclock]
    decide
  have hgoes := h [s] (by simpa using hshown)
  have hnever : ¬ (c.sweepInterval.millis = 0 ∨ c.retention.cutoff? s.world.clock = none) := by
    intro hor
    have hpanicked := Simulation.Future.poll_panicked (hor.imp_right fun hnone => ⟨Nat.zero_le _, hnone⟩)
    rw [Simulation.Future.pollIn, sweeper, hpanicked] at hgoes
    cases hgoes
  rw [not_or, hcutoff _ hshown, hclock, hmillis] at hnever
  obtain ⟨hseconds, hsome⟩ := hnever
  refine ⟨?_, by omega⟩
  by_cases hreach : Date.firstDay + days ≤ (⟨0⟩ : Instant).day
  . exact hreach
  . rw [if_neg hreach] at hsome
    exact absurd rfl hsome

end Lasting

/--
The sweeper of settings that are accepted goes on, whatever the clock shows, exactly if the days that they keep lie
within the calendar from 1970 back and sweeps are some seconds apart.
-/
theorem sweeping_iff {env : Environment} {c : TimelineConfig} (h : ofEnvironment env = .ok c) :
    ∃ days seconds, env.getOr "STATUSLINE_RETENTION_DAYS" Environment.natural32? 120 = .ok days ∧
      env.getOr "STATUSLINE_SWEEP_INTERVAL_SECS" Environment.natural64? 3600 = .ok seconds ∧ c.Sweeps days seconds := by
  obtain ⟨hdays, seconds, hseconds, hinterval⟩ := ofEnvironment_eq_ok h
  have hsize : c.retentionDays < UInt32.size := by
    rcases Environment.getOr_cases hdays with hdefault | ⟨value, hvalue⟩
    . rw [hdefault]
      decide
    . exact naturalBelow?_lt hvalue
  have hcutoff : ∀ now : Instant, now.Shown → c.retention.cutoff? now =
      if Date.firstDay + c.retentionDays ≤ now.day then
        some (.ofNanos (now.toNanos - c.retentionDays * 86400000000000)) else none :=
    fun now hnow => Retention.cutoff?_ofDays hnow hsize
  have hmillis : c.sweepInterval.millis = seconds * 1000 := by
    rw [hinterval]
    simp only [Span.millis, Span.ofSeconds, Span.ofParts]
    omega
  refine ⟨c.retentionDays, seconds, hdays, hseconds, ?_, hcutoff, hmillis, ?_⟩
  . intro s label
    unfold Simulation.Session.spawnSweeper
    have hspan : c.retention.isSpan = true := Retention.isSpan_ofDays hsize
    rw [hspan]
    exact ⟨rfl, _, List.mem_append_right _ List.mem_cons_self, rfl⟩
  . constructor
    . exact reach_of_lasting hcutoff hmillis
    . intro ⟨hreach, hseconds⟩
      exact lasting_of_reach hcutoff hmillis hreach hseconds

/--
Sweeps after no time at all, for the longest retention that the settings can ask for.
-/
def hasty : Environment :=
  .ofList [("STATUSLINE_BACKEND", "mem"), ("STATUSLINE_RETENTION_DAYS", "4294967295"),
    ("STATUSLINE_SWEEP_INTERVAL_SECS", "0")]

/--
These settings are accepted. There is no cutoff for them at the end of 9999, and the sweeper ends in a panic.
-/
theorem sweeper_hasty :
    let c : TimelineConfig := { backend := .memory, retentionDays := 4294967295, sweepInterval := .ofSeconds 0 }
    let now : Instant := .ofParts 253402300799 0
    ofEnvironment hasty = .ok c ∧ now.Shown ∧ c.retention.cutoff? now = none ∧ c.sweepInterval.nanos = 0 ∧
      ∀ s, (Simulation.Session.poll c.sweeper s).1 = .finished .panicked :=
  ⟨rfl, by decide, rfl, rfl, fun _ => Simulation.Future.poll_panicked (.inl rfl)⟩

/--
The longest retention that the calendar has room for in 1970.
-/
def patient : Environment :=
  .ofList [("STATUSLINE_BACKEND", "mem"), ("STATUSLINE_RETENTION_DAYS", "96465292")]

theorem sweeping_iff_patient :
    ∃ c, ofEnvironment patient = .ok c ∧ c.retentionDays = 96465292 ∧ c.sweepInterval = .ofSeconds 3600 ∧
      ∀ sessions, (∀ s ∈ sessions, s.world.clock.Shown) → (c.sweeper.pollIn sessions).answer? = none := by
  refine ⟨{ backend := .memory, retentionDays := 96465292 }, rfl, rfl, rfl, ?_⟩
  obtain ⟨days, seconds, hdays, hseconds, h⟩ := sweeping_iff
    (rfl : ofEnvironment patient = .ok { backend := .memory, retentionDays := 96465292 })
  have hdays' : days = 96465292 := Except.ok.inj (hdays.symm.trans rfl)
  have hseconds' : seconds = 3600 := Except.ok.inj (hseconds.symm.trans rfl)
  exact h.lasting.2 ⟨by rw [hdays']; decide, by omega⟩

end TimelineConfig

end StatusTimeline
