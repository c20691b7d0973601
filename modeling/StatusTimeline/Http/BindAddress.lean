import StatusTimeline.Internet.Address

/-!
This module contains the addresses that the service listens on: an Internet address of either version and
the number of a socket there, written `127.0.0.1:80` or `[::1]:80`.
-/

namespace StatusTimeline.Http

/--
The address of a socket: the groups of an Internet address, 4 of 8 bits or 8 of 16 bits, and the number of
the socket.
-/
structure BindAddress where
  groups : List Nat
  socket : Nat
deriving DecidableEq, Inhabited, Repr

inductive BindFailure where
  | invalid
  /-- The address is not one of the machine. -/
  | unavailable
deriving DecidableEq, Inhabited, Repr

def BindFailure.message : BindFailure → String
  | invalid => "invalid timeline bind address"
  | unavailable => "failed to bind timeline listener"

namespace BindAddress

open Internet

def skipScope (cs : List Char) : Option (List Char) :=
  match cs with
  | '%' :: rest => (takeBelow UInt32.size rest).map (·.2)
  | _ => some cs

/--
Read a colon and the number of a socket, and nothing after them.
-/
def socketOf? (cs : List Char) : Option Nat := do
  let (socket, rest) ← takeBelow 65536 (← skipChar ':' cs)
  if rest.isEmpty then some socket else none

def ofText? (s : String) : Option BindAddress :=
  match s.toList with
  | '[' :: cs => do
    let (groups, cs) ← takeVersion6 cs
    let socket ← socketOf? (← skipChar ']' (← skipScope cs))
    return { groups, socket }
  | cs => do
    let (groups, cs) ← takeVersion4 cs
    let socket ← socketOf? cs
    return { groups, socket }

/--
Whether a machine that belongs to no network can listen on an address. It takes every address of version 4 for
its own; of version 6 it has none but those that hold one of version 4, and the one that stands for all.
-/
def isAvailable (a : BindAddress) : Bool :=
  match a.groups with
  | [0, 0, 0, 0, 0, 0, 0, 0] => true
  | [0, 0, 0, 0, 0, 65535, _, _] => true
  | groups => groups.length = 4

def listen (s : String) : Except BindFailure BindAddress :=
  match ofText? s with
  | none => .error .invalid
  | some address => if address.isAvailable then .ok address else .error .unavailable

end BindAddress

end StatusTimeline.Http
