import StatusTimeline.Board
import StatusTimeline.Lock.Slots
import StatusTimeline.Program
import StatusTimeline.Store.Basic

/-!
This module contains the collaborators of the engine that live in its own process.
-/

namespace StatusTimeline

/--
What a process keeps in memory: intervals, status pointers, locks and known users.
-/
structure Memory where
  store : Store := {}
  board : Board := {}
  locks : Slots := {}
  directory : Directory := {}
deriving Inhabited

namespace Memory

def giveUp (m : Memory) (token : Token) : Memory :=
  match token.hold with
  | .claim _ ticket => { m with locks := m.locks.giveUp token.key ticket }
  | .lease _ => m

/--
Answer a call with nothing else at work. A lock that is held then stays held, so that waiting for it is in
vain.
-/
def answer (m : Memory) (stamp : Stamp) : (c : Call) → Except Error c.Answer × Memory
  | .store c =>
    let (answer, store) := m.store.answer stamp c
    (answer, { m with store })
  | .setPointer update => (.ok (), { m with board := m.board.set update })
  | .resolve user => (.ok (.ofSearch (m.directory.find? user)), m)
  | .lock key =>
    let (ticket, locks) := m.locks.enter key
    if locks.granted ticket then (.ok { key, hold := .claim 0 ticket }, { m with locks })
    else (.error (.lockTimeout key .simulated), { m with locks := locks.giveUp key ticket })
  | .release token =>
    match token.hold with
    | .claim _ _ => (.ok (), m.giveUp token)
    | .lease _ => (.error (.lock (.foreignToken token.key)), m)

end Memory

end StatusTimeline
