import Mathlib.Data.List.Forall2
import StatusTimeline.Config.Timeline
import StatusTimeline.Proofs.Config.Variable
import StatusTimeline.Proofs.Text.Integer

/-!
This module contains which settings the timeline service accepts from its environment, and the error of the others: the
first variable that is refused, else the first thing that is wrong with the values together.
-/

namespace StatusTimeline

theorem toNat_toLower (c : Char) :
    c.toLower.toNat = if 65 ≤ c.toNat ∧ c.toNat ≤ 90 then c.toNat + 32 else c.toNat := by
  unfold Char.toLower
  split
  . next h =>
    have hlow : 65 ≤ c.toNat := UInt32.le_iff_toNat_le.1 h.1
    have hhigh : c.toNat ≤ 90 := UInt32.le_iff_toNat_le.1 h.2
    have hsum : (c.val + 32).toNat = (c.toNat + 32) % 4294967296 := UInt32.toNat_add _ _
    rw [if_pos ⟨hlow, hhigh⟩]
    exact hsum.trans (by omega)
  . next h =>
    rw [if_neg]
    intro ⟨hlow, hhigh⟩
    exact h ⟨UInt32.le_iff_toNat_le.2 hlow, UInt32.le_iff_toNat_le.2 hhigh⟩

theorem toNat_toUpper (c : Char) :
    c.toUpper.toNat = if 97 ≤ c.toNat ∧ c.toNat ≤ 122 then c.toNat - 32 else c.toNat := by
  unfold Char.toUpper
  split
  . next h =>
    have hlow : 97 ≤ c.toNat := UInt32.le_iff_toNat_le.1 h.1
    have hhigh : c.toNat ≤ 122 := UInt32.le_iff_toNat_le.1 h.2
    have hsum : (c.val + 4294967264).toNat = (c.toNat + 4294967264) % 4294967296 := UInt32.toNat_add _ _
    rw [if_pos ⟨hlow, hhigh⟩]
    exact hsum.trans (by omega)
  . next h =>
    rw [if_neg]
    intro ⟨hlow, hhigh⟩
    exact h ⟨UInt32.le_iff_toNat_le.2 hlow, UInt32.le_iff_toNat_le.2 hhigh⟩

theorem toLower_eq_iff {c letter : Char} (h : letter.isLower = true) :
    c.toLower = letter ↔ c = letter ∨ c = letter.toUpper := by
  have hrange := Bool.and_eq_true_iff.1 h
  have hlow : 97 ≤ letter.toNat := UInt32.le_iff_toNat_le.1 (of_decide_eq_true hrange.1)
  have hhigh : letter.toNat ≤ 122 := UInt32.le_iff_toNat_le.1 (of_decide_eq_true hrange.2)
  rw [← Char.toNat_inj, ← Char.toNat_inj, ← Char.toNat_inj, toNat_toLower, toNat_toUpper]
  split <;> split <;> omega

/--
A text spells a word in small letters when it has its letters, each of them small or capital.
-/
def Spells (text word : String) : Prop :=
  List.Forall₂ (fun c letter => c = letter ∨ c = letter.toUpper) text.toList word.toList

theorem map_toLower_eq_iff {cs letters : List Char} (h : ∀ letter ∈ letters, letter.isLower = true) :
    cs.map Char.toLower = letters ↔ List.Forall₂ (fun c letter => c = letter ∨ c = letter.toUpper) cs letters := by
  induction letters generalizing cs with
  | nil => rw [List.map_eq_nil_iff, List.forall₂_nil_right_iff]
  | cons letter letters ih =>
    rw [List.forall_mem_cons] at h
    cases cs with
    | nil => simp
    | cons c cs => rw [List.map_cons, List.cons_eq_cons, List.forall₂_cons, toLower_eq_iff h.1, ih h.2]

theorem asciiLower_eq_iff {text word : String} (h : ∀ letter ∈ word.toList, letter.isLower = true) :
    asciiLower text = word ↔ Spells text word := by
  rw [asciiLower, Spells, ← map_toLower_eq_iff h, ← String.toList_inj, String.toList_ofList]

namespace Backend

/--
The words that name a backend.
-/
def words : Backend → List String
  | memory => ["memory", "mem"]
  | postgres => ["postgres", "pg"]

theorem isLower_words {b : Backend} {word : String} (h : word ∈ b.words) :
    ∀ letter ∈ word.toList, letter.isLower = true := by
  have hall : b.words.all (fun word => word.toList.all Char.isLower) = true := by
    cases b <;> decide
  exact List.all_eq_true.1 (List.all_eq_true.1 hall word h)

theorem ofText?_eq_some_iff {text : String} {b : Backend} :
    ofText? text = some b ↔ ∃ word ∈ b.words, Spells text word := by
  have hlower : ofText? text = some b ↔ asciiLower text ∈ b.words := by
    unfold ofText? parse
    split
    all_goals cases b <;> simp_all [words, Except.toOption]
  rw [hlower]
  constructor
  . intro h
    exact ⟨_, h, (asciiLower_eq_iff (isLower_words h)).1 rfl⟩
  . rintro ⟨word, hword, hspells⟩
    rw [(asciiLower_eq_iff (isLower_words hword)).2 hspells]
    exact hword

end Backend

namespace Variable

/--
A variable that names a backend, in any case of its letters.
-/
def backend (key : String) (default : Backend) : Variable Backend where
  key
  default
  parse := Backend.ofText?
  Writes text b := ∃ word ∈ b.words, Spells text word
  parse_eq_some_iff _ _ := Backend.ofText?_eq_some_iff

/--
A variable that is a natural number below a bound.
-/
def natural (bound : Nat) (key : String) (default : Nat) : Variable Nat where
  key
  default
  parse text := naturalBelow? bound text.toList
  Writes text n := WritesNatural text.toList n ∧ n < bound
  parse_eq_some_iff _ _ := naturalBelow?_eq_some_iff

/--
A variable that can be any text.
-/
def text (key default : String) : Variable String where
  key
  default
  parse := some
  Writes text value := text = value
  parse_eq_some_iff _ _ := Option.some_inj

end Variable

/--
The values of the variables of the timeline service, each in the unit of its variable.
-/
structure Settings where
  backend : Backend
  lockMillis : Nat
  leaseSeconds : Nat
  annotationMillis : Nat
  days : Nat
  sweepSeconds : Nat
  bind : String

namespace Settings

def backendVariable : Variable Backend := .backend "STATUSLINE_BACKEND" .postgres

def lockVariable : Variable Nat := .natural UInt64.size "STATUSLINE_LOCK_TIMEOUT_MS" 10000

def leaseVariable : Variable Nat := .natural UInt64.size "STATUSLINE_LEASE_TTL_SECS" 30

def annotationVariable : Variable Nat := .natural UInt64.size "STATUSLINE_ANNOTATION_TIMEOUT_MS" 2000

def daysVariable : Variable Nat := .natural UInt32.size "STATUSLINE_RETENTION_DAYS" 120

def sweepVariable : Variable Nat := .natural UInt64.size "STATUSLINE_SWEEP_INTERVAL_SECS" 3600

def bindVariable : Variable String := .text "STATUSLINE_HTTP_BIND" "0.0.0.0:8082"

/--
The variables in the order in which they are read.
-/
def inOrder : List (Sigma Variable) :=
  [⟨_, backendVariable⟩, ⟨_, lockVariable⟩, ⟨_, leaseVariable⟩, ⟨_, annotationVariable⟩, ⟨_, daysVariable⟩,
    ⟨_, sweepVariable⟩, ⟨_, bindVariable⟩]

/--
Every variable gives its setting.
-/
structure GivenBy (s : Settings) (values : String → Option ByteArray) : Prop where
  backend : backendVariable.Gives values s.backend
  lock : lockVariable.Gives values s.lockMillis
  lease : leaseVariable.Gives values s.leaseSeconds
  annotation : annotationVariable.Gives values s.annotationMillis
  days : daysVariable.Gives values s.days
  sweep : sweepVariable.Gives values s.sweepSeconds
  bind : bindVariable.Gives values s.bind

def config (s : Settings) : TimelineConfig where
  backend := s.backend
  lockTimeout := .ofMillis s.lockMillis
  leaseTtl := .ofSeconds s.leaseSeconds
  annotationTimeout := .ofMillis s.annotationMillis
  retentionDays := s.days
  sweepInterval := .ofSeconds s.sweepSeconds
  bindAddress := s.bind

/--
A lease, where there are leases, does not end before the lock timeout.
-/
def LeaseLasts (s : Settings) : Prop := s.backend = .postgres → s.lockMillis ≤ s.leaseSeconds * 1000

/--
Settings that go together.
-/
structure Sound (s : Settings) : Prop where
  lock : s.lockMillis ≠ 0
  lease : s.LeaseLasts
  days : s.days ≠ 0

/--
The error of the first thing that is wrong with some settings.
-/
inductive FirstFlaw (s : Settings) : ConfigError → Prop where
  | zeroLockTimeout (hlock : s.lockMillis = 0) : FirstFlaw s TimelineConfig.zeroLockTimeout
  | shortLease (hlock : s.lockMillis ≠ 0) (hlease : ¬ s.LeaseLasts) : FirstFlaw s s.config.shortLease
  | zeroRetention (hlock : s.lockMillis ≠ 0) (hlease : s.LeaseLasts) (hdays : s.days = 0) :
      FirstFlaw s TimelineConfig.zeroRetention

variable {s : Settings} {err : ConfigError}

theorem exists_givenBy {values : String → Option ByteArray} {P : Settings → Prop} :
    (∃ s : Settings, s.GivenBy values ∧ P s) ↔
      ∃ backend, backendVariable.Gives values backend ∧ ∃ lockMillis, lockVariable.Gives values lockMillis ∧
      ∃ leaseSeconds, leaseVariable.Gives values leaseSeconds ∧
      ∃ annotationMillis, annotationVariable.Gives values annotationMillis ∧
      ∃ days, daysVariable.Gives values days ∧ ∃ sweepSeconds, sweepVariable.Gives values sweepSeconds ∧
      ∃ bind, bindVariable.Gives values bind ∧
        P { backend, lockMillis, leaseSeconds, annotationMillis, days, sweepSeconds, bind } := by
  constructor
  . rintro ⟨s, h, hP⟩
    exact ⟨_, h.backend, _, h.lock, _, h.lease, _, h.annotation, _, h.days, _, h.sweep, _, h.bind, hP⟩
  . rintro ⟨_, hbackend, _, hlock, _, hlease, _, hannotation, _, hdays, _, hsweep, _, hbind, hP⟩
    exact ⟨_, ⟨hbackend, hlock, hlease, hannotation, hdays, hsweep, hbind⟩, hP⟩

theorem nanos_lockTimeout_eq_zero : s.config.lockTimeout.nanos = 0 ↔ s.lockMillis = 0 := by
  simp only [config, Span.ofMillis]
  omega

theorem leaseTtl_lt_iff :
    s.config.backend = .postgres ∧ s.config.leaseTtl.nanos < s.config.lockTimeout.nanos ↔ ¬ s.LeaseLasts := by
  rw [LeaseLasts, Classical.not_imp, Nat.not_le]
  apply and_congr_right
  intro _
  simp only [config, Span.ofSeconds, Span.ofParts, Span.ofMillis]
  omega

theorem Sound.validate_eq (h : s.Sound) : s.config.validate = .ok () := by
  unfold TimelineConfig.validate
  rw [if_neg (mt nanos_lockTimeout_eq_zero.1 h.lock), if_neg (fun hshort => leaseTtl_lt_iff.1 hshort h.lease)]
  exact if_neg h.days

theorem FirstFlaw.validate_eq (h : s.FirstFlaw err) : s.config.validate = .error err := by
  unfold TimelineConfig.validate
  cases h with
  | zeroLockTimeout hlock => rw [if_pos (nanos_lockTimeout_eq_zero.2 hlock)]
  | shortLease hlock hlease =>
    rw [if_neg (mt nanos_lockTimeout_eq_zero.1 hlock), if_pos (leaseTtl_lt_iff.2 hlease)]
  | zeroRetention hlock hlease hdays =>
    rw [if_neg (mt nanos_lockTimeout_eq_zero.1 hlock), if_neg (fun hshort => leaseTtl_lt_iff.1 hshort hlease)]
    exact if_pos hdays

theorem sound_or_firstFlaw (s : Settings) : s.Sound ∨ ∃ err, s.FirstFlaw err := by
  by_cases hlock : s.lockMillis = 0
  . exact .inr ⟨_, .zeroLockTimeout hlock⟩
  . by_cases hlease : s.LeaseLasts
    . by_cases hdays : s.days = 0
      . exact .inr ⟨_, .zeroRetention hlock hlease hdays⟩
      . exact .inl ⟨hlock, hlease, hdays⟩
    . exact .inr ⟨_, .shortLease hlock hlease⟩

end Settings

namespace TimelineConfig

open Settings in
theorem ofEnvironment_eq (env : Environment) : ofEnvironment env = (do
    let backend ← backendVariable.read env
    let lockMillis ← lockVariable.read env
    let leaseSeconds ← leaseVariable.read env
    let annotationMillis ← annotationVariable.read env
    let days ← daysVariable.read env
    let sweepSeconds ← sweepVariable.read env
    let bind ← bindVariable.read env
    let s : Settings := { backend, lockMillis, leaseSeconds, annotationMillis, days, sweepSeconds, bind }
    s.config.validate
    return s.config) := rfl

variable {values : String → Option ByteArray} {c : TimelineConfig} {err : ConfigError}

theorem validated_eq_ok_iff {s : Settings} :
    (s.config.validate >>= fun _ => .ok s.config) = .ok c ↔ s.Sound ∧ c = s.config := by
  constructor
  . intro h
    rcases s.sound_or_firstFlaw with hsound | ⟨err, hflaw⟩
    . rw [hsound.validate_eq] at h
      exact ⟨hsound, (Except.ok.inj h).symm⟩
    . rw [hflaw.validate_eq] at h
      cases h
  . rintro ⟨hsound, rfl⟩
    rw [hsound.validate_eq]
    rfl

theorem validated_eq_error_iff {s : Settings} :
    (s.config.validate >>= fun _ => .ok s.config) = .error err ↔ s.FirstFlaw err := by
  constructor
  . intro h
    rcases s.sound_or_firstFlaw with hsound | ⟨err', hflaw⟩
    . rw [hsound.validate_eq] at h
      cases h
    . have heq := hflaw.validate_eq
      rw [heq] at h
      cases h
      exact hflaw
  . intro h
    rw [h.validate_eq]
    rfl

theorem ofEnvironment_eq_ok_iff :
    ofEnvironment (.ofBytes values) = .ok c ↔ ∃ s : Settings, s.GivenBy values ∧ s.Sound ∧ c = s.config := by
  rw [ofEnvironment_eq, Settings.exists_givenBy]
  apply Variable.read_bind_eq_ok_iff
  intro backend
  apply Variable.read_bind_eq_ok_iff
  intro lockMillis
  apply Variable.read_bind_eq_ok_iff
  intro leaseSeconds
  apply Variable.read_bind_eq_ok_iff
  intro annotationMillis
  apply Variable.read_bind_eq_ok_iff
  intro days
  apply Variable.read_bind_eq_ok_iff
  intro sweepSeconds
  apply Variable.read_bind_eq_ok_iff
  intro bind
  exact validated_eq_ok_iff

theorem ofEnvironment_eq_error_iff :
    ofEnvironment (.ofBytes values) = .error err ↔
      Variable.FirstRefused values Settings.inOrder err ∨ ∃ s : Settings, s.GivenBy values ∧ s.FirstFlaw err := by
  rw [ofEnvironment_eq, Settings.exists_givenBy]
  apply Variable.read_bind_eq_error_iff
  intro backend
  apply Variable.read_bind_eq_error_iff
  intro lockMillis
  apply Variable.read_bind_eq_error_iff
  intro leaseSeconds
  apply Variable.read_bind_eq_error_iff
  intro annotationMillis
  apply Variable.read_bind_eq_error_iff
  intro days
  apply Variable.read_bind_eq_error_iff
  intro sweepSeconds
  apply Variable.read_bind_eq_error_iff
  intro bind
  rw [or_iff_right (nofun : ¬ Variable.FirstRefused values [] err)]
  exact validated_eq_error_iff

/--
Settings are accepted exactly if every variable gives its own and they go together. Else the error is that of the first
variable that is refused, and only when none is, that of the first flaw of the settings together.
-/
theorem ofEnvironment_iff (values : String → Option ByteArray) :
    (∀ c, ofEnvironment (.ofBytes values) = .ok c ↔ ∃ s : Settings, s.GivenBy values ∧ s.Sound ∧ c = s.config) ∧
      ∀ err, ofEnvironment (.ofBytes values) = .error err ↔
        Variable.FirstRefused values Settings.inOrder err ∨ ∃ s : Settings, s.GivenBy values ∧ s.FirstFlaw err :=
  ⟨fun _ => ofEnvironment_eq_ok_iff, fun _ => ofEnvironment_eq_error_iff⟩

example : ofEnvironment (.ofList [("STATUSLINE_LOCK_TIMEOUT_MS", " +0031000")]) =
    .error (.inconsistent "lease ttl 30s must not be shorter than lock timeout 31s") := by
  decide +kernel

end TimelineConfig

end StatusTimeline
