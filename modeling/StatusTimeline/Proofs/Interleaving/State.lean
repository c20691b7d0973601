import StatusTimeline.Proofs.Engine.Serve
import StatusTimeline.Proofs.Store.History

/-!
This module contains the interleavings of any number of clients of one engine. Each client executes the program
of its request, and each call of a program is one atomic step. A client that waits for a lock gets it when
nobody holds it, or gives up at any time, and a client may be cancelled between any two calls.
-/

namespace StatusTimeline

section Slots

variable {α : Type} {xs : List (Option α)} {i : Nat}

theorem lt_of_join_getElem? {x : α} (h : xs[i]?.join = some x) : i < xs.length := by
  rw [Option.join_eq_some_iff] at h
  exact (List.getElem?_eq_some_iff.1 h).1

theorem join_getElem?_set (hi : i < xs.length) (x : Option α) (j : Nat) :
    (xs.set i x)[j]?.join = if j = i then x else xs[j]?.join := by
  by_cases h : j = i
  . subst h
    simp [hi]
  . rw [List.getElem?_set_ne (Ne.symm h)]
    simp [h]

theorem join_getElem?_concat (xs : List (Option α)) (x : Option α) (j : Nat) :
    (xs ++ [x])[j]?.join = if j = xs.length then x else xs[j]?.join := by
  rw [List.getElem?_append]
  split
  . next hj =>
    rw [if_neg (by omega)]
  . next hj =>
    by_cases h : j = xs.length
    . simp [h]
    . have h' : xs.length < j := by omega
      have h'' : ¬ j - xs.length = 0 := by omega
      simp [h, h'', List.getElem?_eq_none (Nat.le_of_lt h')]

end Slots

namespace Interleaving

inductive Reply where
  /-- By the collaborator that it is made to, with what that one is given from outside. -/
  | served (stamp : Stamp)
  | expired (waited : Waited)
deriving DecidableEq, Repr

structure Entry where
  client : Nat
  call : Call
  reply : Reply
  answer : Except Error call.Answer

def Entry.isPurge (en : Entry) : Bool :=
  match en.call with
  | .store (.purge _) => true
  | _ => false

/--
What all clients share: the memory, whose own locks stay idle, the clients that hold the locks, the identifiers that
were drawn so far, and the calls that were answered so far, latest first.
-/
structure Shared where
  memory : Memory := {}
  holders : List (String × Nat) := []
  drawn : List Uuid := []
  trace : List Entry := []

namespace Shared

def isFree (sh : Shared) (key : String) : Bool := sh.holders.all (·.1 ≠ key)

def hold (sh : Shared) (key : String) (i : Nat) : Shared := { sh with holders := (key, i) :: sh.holders }

def free (sh : Shared) (key : String) (i : Nat) : Shared :=
  { sh with holders := sh.holders.filter (· ≠ (key, i)) }

def freeAll (sh : Shared) (i : Nat) : Shared :=
  { sh with holders := sh.holders.filter (·.2 ≠ i) }

def draw (sh : Shared) (stamp : Stamp) (c : StoreCall) : Shared :=
  if c.draws then { sh with drawn := stamp.id :: sh.drawn } else sh

def note (sh : Shared) (en : Entry) : Shared := { sh with trace := en :: sh.trace }

def remember (sh : Shared) (memory : Memory) : Shared := { sh with memory }

/--
Answer a call of a client, where it can be answered now. An identifier is never drawn twice.
-/
def serve (sh : Shared) (i : Nat) : Reply → (c : Call) → Option (Except Error c.Answer × Shared)
  | .served stamp, .store c =>
    let (answer, memory) := sh.memory.answer stamp (.store c)
    if c.draws && stamp.id ∈ sh.drawn then none else some (answer, (sh.draw stamp c).remember memory)
  | .served stamp, .setPointer update =>
    let (answer, memory) := sh.memory.answer stamp (.setPointer update)
    some (answer, sh.remember memory)
  | .served stamp, .resolve user =>
    let (answer, memory) := sh.memory.answer stamp (.resolve user)
    some (answer, sh.remember memory)
  | .served _, .lock key =>
    if sh.isFree key then some (.ok { key, hold := .claim 0 i }, sh.hold key i) else none
  | .served _, .release token => some (.ok (), sh.free token.key i)
  | .expired waited, .lock key => some (.error (.lockTimeout key waited), sh)
  | .expired _, _ => none

def reply (sh : Shared) (i : Nat) (how : Reply) (c : Call) : Option (Except Error c.Answer × Shared) :=
  (sh.serve i how c).map fun (answer, sh') =>
    (answer, sh'.note { client := i, call := c, reply := how, answer })

section Replies

variable {sh sh' : Shared} {i : Nat} {how : Reply}

theorem draw_trace (stamp : Stamp) (c : StoreCall) : (sh.draw stamp c).trace = sh.trace := by
  unfold draw
  split <;> rfl

theorem reply_store {c : StoreCall} {answer : Except Error c.Answer}
    (h : sh.reply i how (.store c) = some (answer, sh')) :
    ∃ stamp store, how = .served stamp ∧ sh.memory.store.answer stamp c = (answer, store) ∧
      (c.draws = true → stamp.id ∉ sh.drawn) ∧
      sh' = ((sh.draw stamp c).remember { sh.memory with store }).note
        { client := i, call := .store c, reply := how, answer } := by
  unfold reply at h
  rw [Option.map_eq_some_iff] at h
  obtain ⟨⟨answer', sh''⟩, hs, heq⟩ := h
  cases heq
  cases how with
  | expired waited => cases hs
  | served stamp =>
    simp only [serve] at hs
    split at hs
    . cases hs
    . next hd =>
      cases hs
      exact ⟨stamp, _, rfl, rfl, by simpa using hd, rfl⟩

theorem reply_read {c : StoreCall} (hc : c.isRead = true) {answer : Except Error c.Answer}
    (h : sh.reply i how (.store c) = some (answer, sh')) :
    ∃ stamp, how = .served stamp ∧ answer = (sh.memory.store.answer stamp c).1 ∧
      sh' = sh.note { client := i, call := .store c, reply := how, answer } := by
  obtain ⟨stamp, store, hhow, hans, _, rfl⟩ := reply_store h
  have hstore : (sh.memory.store.answer stamp c).2 = store := by rw [hans]
  rw [StoreCall.answer_of_isRead hc] at hstore
  subst hstore
  refine ⟨stamp, hhow, by rw [hans], ?_⟩
  simp [draw, StoreCall.draws_of_isRead hc, remember]

theorem reply_setPointer {update : PointerUpdate} {answer : Except Error Unit}
    (h : sh.reply i how (.setPointer update) = some (answer, sh')) :
    answer = .ok () ∧ sh' = (sh.remember { sh.memory with board := sh.memory.board.set update }).note
      { client := i, call := .setPointer update, reply := how, answer := .ok () } := by
  cases how with
  | expired waited => cases h
  | served stamp =>
    cases h
    exact ⟨rfl, rfl⟩

theorem reply_resolve {user : Uuid} {answer : Except Error Lookup}
    (h : sh.reply i how (.resolve user) = some (answer, sh')) :
    answer = .ok (.ofSearch (sh.memory.directory.find? user)) ∧
      sh' = sh.note { client := i, call := .resolve user, reply := how, answer } := by
  cases how with
  | expired waited => cases h
  | served stamp =>
    cases h
    exact ⟨rfl, rfl⟩

theorem reply_lock {key : String} {answer : Except Error Token}
    (h : sh.reply i how (.lock key) = some (answer, sh')) :
    (∃ token : Token, answer = .ok token ∧ token.key = key ∧ sh.isFree key = true ∧
      sh' = (sh.hold key i).note { client := i, call := .lock key, reply := how, answer }) ∨
    (∃ waited, answer = .error (.lockTimeout key waited) ∧
      sh' = sh.note { client := i, call := .lock key, reply := how, answer }) := by
  cases how with
  | expired waited =>
    right
    cases h
    exact ⟨waited, rfl, rfl⟩
  | served stamp =>
    left
    simp only [reply, serve] at h
    split at h
    . next hfree =>
      cases h
      exact ⟨_, rfl, rfl, hfree, rfl⟩
    . cases h

theorem reply_release {token : Token} {answer : Except Error Unit}
    (h : sh.reply i how (.release token) = some (answer, sh')) :
    answer = .ok () ∧ sh' = (sh.free token.key i).note
      { client := i, call := .release token, reply := how, answer := .ok () } := by
  cases how with
  | expired waited => cases h
  | served stamp =>
    cases h
    exact ⟨rfl, rfl⟩

theorem reply_trace {c : Call} {answer : Except Error c.Answer} (h : sh.reply i how c = some (answer, sh')) :
    sh'.trace = { client := i, call := c, reply := how, answer } :: sh.trace := by
  cases c with
  | store c =>
    obtain ⟨stamp, store, _, _, _, rfl⟩ := reply_store h
    simp only [note, remember, draw_trace]
  | setPointer update =>
    obtain ⟨rfl, rfl⟩ := reply_setPointer h
    rfl
  | resolve user =>
    obtain ⟨_, rfl⟩ := reply_resolve h
    rfl
  | lock key =>
    rcases reply_lock h with ⟨_, _, _, _, rfl⟩ | ⟨_, _, rfl⟩ <;> rfl
  | release token =>
    obtain ⟨rfl, rfl⟩ := reply_release h
    rfl

end Replies

end Shared

def timedOut : Except Error α → Bool
  | .error (.lockTimeout _ _) => true
  | _ => false

/--
A client: its request, what is left of the request's program, and the clients that were served before it began.
-/
structure Client where
  request : Request
  rest : Program (Except Error request.Answer)
  after : List Nat := []

namespace Client

def result? (c : Client) : Option (Except Error c.request.Answer) :=
  match c.rest with
  | .done result => some result
  | .call _ _ => none

/--
Whether the client has finished and did not give up waiting for a lock.
-/
def wasServed (c : Client) : Bool := c.result?.any fun result => !timedOut result

def pending? (c : Client) : Option Call :=
  match c.rest with
  | .done _ => none
  | .call call _ => some call

end Client

/--
A state of an interleaving: what is shared, and the clients in the order in which they began. A client that was
cancelled is none.
-/
structure State where
  shared : Shared := {}
  clients : List (Option Client) := []

namespace State

def start (m : Memory) : State :=
  { shared := { memory := m, drawn := m.store.rows.map (·.interval.id) } }

def client? (s : State) (i : Nat) : Option Client := s.clients[i]?.join

def served (s : State) : List Nat :=
  (List.range s.clients.length).filter fun i => (s.client? i).any (·.wasServed)

theorem client?_lt {s : State} {i : Nat} {c : Client} (h : s.client? i = some c) :
    i < s.clients.length :=
  lt_of_join_getElem? h

theorem client?_set {clients : List (Option Client)} {shared : Shared} {i : Nat} {x : Option Client}
    (hi : i < clients.length) (j : Nat) :
    State.client? { shared, clients := clients.set i x } j =
      if j = i then x else State.client? { shared, clients } j :=
  join_getElem?_set hi x j

theorem client?_concat (clients : List (Option Client)) (shared : Shared) (c : Client) (j : Nat) :
    State.client? { shared, clients := clients ++ [some c] } j =
      if j = clients.length then some c else State.client? { shared, clients } j :=
  join_getElem?_concat clients (some c) j

end State

inductive Event where
  | begin (request : Request)
  | advance (i : Nat) (how : Reply)
  | cancel (i : Nat)
deriving DecidableEq, Repr

/--
Whether the event does not begin a request that chooses the start of the interval that it opens.
-/
def Event.StartsNow : Event → Prop
  | begin request => request.StartsNow
  | _ => True

instance (ev : Event) : Decidable ev.StartsNow := by
  cases ev <;> unfold Event.StartsNow <;> infer_instance

def next (e : Engine) (s : State) : Event → Option State
  | .begin request =>
    some { s with clients := s.clients ++
      [some { request, rest := (request.operation e).run, after := s.served }] }
  | .advance i how =>
    match s.client? i with
    | some { request, rest := .call c next, after } =>
      (s.shared.reply i how c).map fun (answer, shared) =>
        { shared, clients := s.clients.set i (some { request, rest := next answer, after }) }
    | _ => none
  | .cancel i =>
    match s.client? i with
    | some _ => some { shared := s.shared.freeAll i, clients := s.clients.set i none }
    | none => none

theorem reply_of_advance {e : Engine} {s s' : State} {i : Nat} {how : Reply}
    (h : next e s (.advance i how) = some s') :
    ∃ c call answer, s.client? i = some c ∧ c.pending? = some call ∧
      s.shared.reply i how call = some (answer, s'.shared) := by
  simp only [next] at h
  split at h
  . next request call next after hc =>
    rw [Option.map_eq_some_iff] at h
    obtain ⟨⟨answer, shared⟩, hreply, rfl⟩ := h
    exact ⟨_, call, answer, hc, rfl, hreply⟩
  . cases h

def play (e : Engine) (s : State) : List Event → Option State
  | [] => some s
  | ev :: evs => (next e s ev).bind fun s => play e s evs

end Interleaving

end StatusTimeline
