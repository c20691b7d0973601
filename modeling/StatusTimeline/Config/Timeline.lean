import StatusTimeline.Config.Environment
import StatusTimeline.Retention
import StatusTimeline.Time.Span

/-!
This module contains the settings of the timeline service itself: where it keeps its data, how long it waits
and how long it remembers.
-/

namespace StatusTimeline

inductive Backend where
  /-- In the process; nothing survives a restart. -/
  | memory
  | postgres
deriving DecidableEq, Inhabited, Repr

namespace Backend

/--
Read the name of a backend in any case of its letters, or tell what name is unknown.
-/
def parse (s : String) : Except String Backend :=
  match asciiLower s with
  | "memory" => .ok memory
  | "mem" => .ok memory
  | "postgres" => .ok postgres
  | "pg" => .ok postgres
  | unknown => .error ("unknown backend " ++ unknown)

def ofText? (s : String) : Option Backend := (parse s).toOption

def name : Backend → String
  | memory => "memory"
  | postgres => "postgres"

end Backend

structure TimelineConfig where
  backend : Backend := .postgres
  lockTimeout : Span := .ofSeconds 10
  leaseTtl : Span := .ofSeconds 30
  annotationTimeout : Span := .ofSeconds 2
  retentionDays : Nat := 120
  sweepInterval : Span := .ofSeconds 3600
  bindAddress : String := "0.0.0.0:8082"
deriving DecidableEq, Inhabited, Repr

namespace TimelineConfig

def zeroLockTimeout : ConfigError := .invalid "STATUSLINE_LOCK_TIMEOUT_MS" "0"

def zeroRetention : ConfigError := .invalid "STATUSLINE_RETENTION_DAYS" "0"

/--
The error of a lease that may end while its lock is still waited for.
-/
def shortLease (c : TimelineConfig) : ConfigError :=
  .inconsistent ("lease ttl " ++ c.leaseTtl.text ++ " must not be shorter than lock timeout " ++
    c.lockTimeout.text)

/--
Refuse a lock timeout or a retention of zero, and leases shorter than the lock timeout where there are
leases.
-/
def validate (c : TimelineConfig) : Except ConfigError Unit :=
  if c.lockTimeout.nanos = 0 then .error zeroLockTimeout
  else if c.backend = .postgres ∧ c.leaseTtl.nanos < c.lockTimeout.nanos then .error c.shortLease
  else if c.retentionDays = 0 then .error zeroRetention
  else .ok ()

/--
Read the settings, in a fixed order, each with its default, and validate them.
-/
def ofEnvironment (env : Environment) : Except ConfigError TimelineConfig := do
  let default : TimelineConfig := {}
  let backend ← env.getOr "STATUSLINE_BACKEND" Backend.ofText? default.backend
  let lockTimeout ←
    env.getOr "STATUSLINE_LOCK_TIMEOUT_MS" Environment.natural64? default.lockTimeout.millis
  let leaseTtl ←
    env.getOr "STATUSLINE_LEASE_TTL_SECS" Environment.natural64? default.leaseTtl.seconds
  let annotationTimeout ←
    env.getOr "STATUSLINE_ANNOTATION_TIMEOUT_MS" Environment.natural64?
      default.annotationTimeout.millis
  let retentionDays ←
    env.getOr "STATUSLINE_RETENTION_DAYS" Environment.natural32? default.retentionDays
  let sweepInterval ←
    env.getOr "STATUSLINE_SWEEP_INTERVAL_SECS" Environment.natural64? default.sweepInterval.seconds
  let bindAddress ← env.getOr "STATUSLINE_HTTP_BIND" some default.bindAddress
  let config : TimelineConfig := {
    backend
    lockTimeout := .ofMillis lockTimeout
    leaseTtl := .ofSeconds leaseTtl
    annotationTimeout := .ofMillis annotationTimeout
    retentionDays
    sweepInterval := .ofSeconds sweepInterval
    bindAddress }
  config.validate
  return config

def retention (c : TimelineConfig) : Retention := .ofDays c.retentionDays

end TimelineConfig

end StatusTimeline
