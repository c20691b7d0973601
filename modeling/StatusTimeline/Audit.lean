import StatusTimeline.Interval

/-!
This module contains the audit of a timeline: `audit` checks that exactly one interval is open and that
each of the others ends where the next one starts.
-/

namespace StatusTimeline

inductive Violation where
  | noOpenInterval
  | multipleOpen (ids : List Uuid)
  | openNotLast (id : Uuid)
  | gap (before after : Uuid) (endsAt nextStartsAt : Instant)
  | overlap (before after : Uuid) (endsAt nextStartsAt : Instant)
deriving DecidableEq, Inhabited, Repr

structure AuditReport where
  intervalCount : Nat
  openInterval : Option Uuid
  violations : List Violation
deriving DecidableEq, Inhabited, Repr

def AuditReport.isConsistent (r : AuditReport) : Bool := r.violations.isEmpty

namespace Audit

def openIds (sorted : List Interval) : List Uuid := (sorted.filter (·.isOpen)).map (·.id)

def openViolations (sorted : List Interval) : List Violation :=
  match openIds sorted with
  | [] => if sorted.isEmpty then [] else [.noOpenInterval]
  | [_] => []
  | ids => [.multipleOpen ids]

def pairViolations (current next : Interval) : List Violation :=
  match current.endsAt with
  | none => [.openNotLast current.id]
  | some endsAt =>
    if endsAt < next.startsAt then [.gap current.id next.id endsAt next.startsAt]
    else if next.startsAt < endsAt then [.overlap current.id next.id endsAt next.startsAt]
    else []

def chainViolations : List Interval → List Violation
  | current :: next :: rest => pairViolations current next ++ chainViolations (next :: rest)
  | _ => []

def soleOpen (sorted : List Interval) : Option Uuid :=
  match openIds sorted with
  | [id] => some id
  | _ => none

end Audit

/--
Check the intervals of one monitor. Their order does not matter: they are walked by start, then by
creation. No intervals at all are consistent.
-/
def audit (intervals : List Interval) : AuditReport :=
  let sorted := Interval.sorted intervals
  { intervalCount := sorted.length
    openInterval := Audit.soleOpen sorted
    violations := Audit.openViolations sorted ++ Audit.chainViolations sorted }

end StatusTimeline
