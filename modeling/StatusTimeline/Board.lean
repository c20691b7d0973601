import StatusTimeline.Change

/-!
This module contains the current statuses of monitors as the platform around the timelines sees them: a board
in memory, or a column of the platform's own table of monitors.
-/

namespace StatusTimeline

structure Board where
  entries : List (Uuid × Uuid) := []
deriving DecidableEq, Inhabited, Repr

namespace Board

def current? (b : Board) (monitor : Uuid) : Option Uuid :=
  (b.entries.find? (·.1 = monitor)).map (·.2)

def set (b : Board) (update : PointerUpdate) : Board :=
  { entries := (update.monitorId, update.statusId) ::
      b.entries.filter (·.1 ≠ update.monitorId) }

theorem current?_set (b : Board) (update : PointerUpdate) (monitor : Uuid) :
    (b.set update).current? monitor =
      if monitor = update.monitorId then some update.statusId else b.current? monitor := by
  simp only [current?, set]
  by_cases h : monitor = update.monitorId
  · simp [h]
  · have h' : ¬ update.monitorId = monitor := fun e => h e.symm
    simp only [List.find?_cons, h', decide_false, h, if_false, List.find?_filter]
    congr 2
    funext p
    by_cases hp : p.1 = monitor <;> simp_all

end Board

structure MonitorRow where
  id : Uuid
  currentStatus : Option Uuid := none
  updatedAt : Option Instant := none
deriving DecidableEq, Inhabited, Repr

end StatusTimeline
