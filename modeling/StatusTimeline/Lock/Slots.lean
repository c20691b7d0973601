/-!
This module contains the locks of one process: a key leads to a slot, claims queue at the slot in the order
of their arrival, and at most one claim of a slot holds it. A slot is idle when no claim is on it. Idle slots
are swept away when a key is looked up, and when a claim is given up.
-/

namespace StatusTimeline

/--
A claim on a slot: it waits for the slot or holds it.
-/
structure Claim where
  ticket : Nat
  key : String
  slot : Nat
  holds : Bool
deriving DecidableEq, Inhabited, Repr

/--
The locks of one process: the slot of each key, and the claims, oldest first.
-/
structure Slots where
  entries : List (String × Nat) := []
  claims : List Claim := []
  lastSlot : Nat := 0
  lastTicket : Nat := 0
deriving DecidableEq, Inhabited, Repr

namespace Slots

def isIdle (s : Slots) (slot : Nat) : Bool := s.claims.all (·.slot ≠ slot)

def isHeld (s : Slots) (slot : Nat) : Bool := s.claims.any fun c => c.slot = slot && c.holds

def granted (s : Slots) (ticket : Nat) : Bool := s.claims.any fun c => c.ticket = ticket && c.holds

def slotOf? (s : Slots) (key : String) : Option Nat :=
  (s.entries.find? (·.1 = key)).map (·.2)

def activeKeys (s : Slots) : Nat := (s.entries.filter fun e => !s.isIdle e.2).length

def sweep (s : Slots) : Slots := { s with entries := s.entries.filter fun e => !s.isIdle e.2 }

def ensure (s : Slots) (key : String) : Nat × Slots :=
  match s.slotOf? key with
  | some slot => (slot, s)
  | none =>
    let slot := s.lastSlot + 1
    (slot, { s with entries := s.entries ++ [(key, slot)], lastSlot := slot })

/--
Put a claim on the slot of a key, after a sweep, and give out its ticket. The claim waits.
-/
def claim (s : Slots) (key : String) : Nat × Slots :=
  let (slot, s) := s.sweep.ensure key
  let ticket := s.lastTicket + 1
  (ticket,
    { s with claims := s.claims ++ [{ ticket, key, slot, holds := false }], lastTicket := ticket })

def grantOldest (slot : Nat) : List Claim → List Claim
  | [] => []
  | c :: cs =>
    if c.slot = slot then { c with holds := true } :: cs else c :: grantOldest slot cs

/--
Let the oldest claim on a slot hold it, unless the slot is held.
-/
def grant (s : Slots) (slot : Nat) : Slots :=
  if s.isHeld slot then s else { s with claims := grantOldest slot s.claims }

def prune (s : Slots) (key : String) : Slots :=
  { s with entries := s.entries.filter fun e => e.1 ≠ key || !s.isIdle e.2 }

/--
Take a claim off its slot and pass the slot on to the next one.
-/
def withdraw (s : Slots) (ticket : Nat) : Slots :=
  match s.claims.find? (·.ticket = ticket) with
  | none => s
  | some c => { s with claims := s.claims.filter (·.ticket ≠ ticket) }.grant c.slot

/--
Give up a claim, held or awaited, and forget the slot of its key when nobody else claims it.
-/
def giveUp (s : Slots) (key : String) (ticket : Nat) : Slots := (s.withdraw ticket).prune key

/--
Claim a key and hold it at once when it is free.
-/
def enter (s : Slots) (key : String) : Nat × Slots :=
  let (ticket, s) := s.claim key
  match s.slotOf? key with
  | some slot => (ticket, s.grant slot)
  | none => (ticket, s)

end Slots

end StatusTimeline
