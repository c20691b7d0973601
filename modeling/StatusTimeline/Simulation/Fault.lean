import StatusTimeline.Program

/-!
This module contains faults, by which a simulation makes calls to the engine's collaborators fail.
-/

namespace StatusTimeline.Simulation

inductive Method where
  | findById
  | findLatest
  | findNeighbors
  | insert
  | updateEndsAt
  | delete
  | count
  | list
  | purge
  | append
  | applyDeletion
  | setPointer
  | resolve
  | lock
  | release
deriving DecidableEq, Inhabited, Repr

def Method.ofStore : StoreCall → Method
  | .findById _ => findById
  | .findLatest _ => findLatest
  | .findNeighbors _ _ => findNeighbors
  | .insert _ => insert
  | .updateEndsAt _ _ => updateEndsAt
  | .delete _ => delete
  | .count _ => count
  | .list _ => list
  | .purge _ => purge
  | .append _ _ => append
  | .applyDeletion _ => applyDeletion

inductive Effect where
  | fail (e : Error)
  /-- A search finds nothing; any other call is not affected. -/
  | nothing
deriving DecidableEq, Inhabited, Repr

/--
A fault: of the calls of a method the first `after` pass and the next `times` are hit.
-/
structure Fault where
  method : Method
  after : Nat := 0
  times : Nat := 1
  effect : Effect
deriving DecidableEq, Inhabited, Repr

namespace Fault

/--
Count a call of a method against the oldest of its faults that is not used up, and tell the effect on the
call, if any.
-/
def strike (method : Method) : List Fault → Option Effect × List Fault
  | [] => (none, [])
  | f :: fs =>
    if f.method = method ∧ 0 < f.times then
      if 0 < f.after then (none, { f with after := f.after - 1 } :: fs)
      else (some f.effect, { f with times := f.times - 1 } :: fs)
    else
      let (effect, fs) := strike method fs
      (effect, f :: fs)

end Fault

end StatusTimeline.Simulation
