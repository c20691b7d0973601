import StatusTimeline.Actor
import StatusTimeline.Error
import StatusTimeline.Lock.Token
import StatusTimeline.Store.Call

/-!
This module contains programs: descriptions of what an operation asks of the store, the status pointers, the
directory and the locks, and how it goes on from each answer. What the answers are is left to whoever runs
the program.
-/

namespace StatusTimeline

inductive Lookup where
  | found (actor : Actor)
  | unknown
  | timedOut
deriving DecidableEq, Inhabited, Repr

inductive Call where
  | store (c : StoreCall)
  | setPointer (update : PointerUpdate)
  | resolve (user : Uuid)
  | lock (key : String)
  | release (token : Token)
deriving DecidableEq, Repr

abbrev Call.Answer : Call → Type
  | store c => c.Answer
  | setPointer _ => Unit
  | resolve _ => Lookup
  | lock _ => Token
  | release _ => Unit

/--
A program: its result, or a call and how it goes on from the answer, which may be an error.
-/
inductive Program (α : Type) where
  | done (result : α)
  | call (c : Call) (next : Except Error c.Answer → Program α)

namespace Program

def bind : Program α → (α → Program β) → Program β
  | done a, f => f a
  | call c next, f => call c fun answer => (next answer).bind f

instance : Monad Program where
  pure := done
  bind := bind

theorem bind_done (a : α) (f : α → Program β) : (done a).bind f = f a := rfl

theorem bind_call (c : Call) (next : Except Error c.Answer → Program α) (f : α → Program β) :
    (call c next).bind f = call c fun answer => (next answer).bind f := rfl

theorem bind_assoc (p : Program α) (f : α → Program β) (g : β → Program γ) :
    (p.bind f).bind g = p.bind fun a => (f a).bind g := by
  induction p with
  | done a => rfl
  | call c next ih => simp only [bind_call, ih]

theorem bind_pure (p : Program α) : p.bind done = p := by
  induction p with
  | done a => rfl
  | call c next ih => simp only [bind_call, ih]

instance : LawfulMonad Program :=
  .mk' Program
    bind_pure (fun _ _ => rfl) bind_assoc

/--
Run a program to its end with nothing else at work. `answer` tells how the collaborators answer a call in
the state they are in, and the state that leaves them in.
-/
def run (answer : σ → (c : Call) → Except Error c.Answer × σ) : Program α → σ → α × σ
  | done a, s => (a, s)
  | call c next, s => run answer (next (answer s c).1) (answer s c).2

theorem run_bind (answer : σ → (c : Call) → Except Error c.Answer × σ) (p : Program α)
    (f : α → Program β) (s : σ) :
    (p.bind f).run answer s = (f (p.run answer s).1).run answer (p.run answer s).2 := by
  induction p generalizing s with
  | done a => rfl
  | call c next ih => simp only [bind_call, run, ih]

end Program

/--
What a directory that answers at once makes of a search in it.
-/
def Lookup.ofSearch : Option Actor → Lookup
  | some actor => found actor
  | none => unknown

/--
A program that may fail; an error ends it.
-/
abbrev Operation := ExceptT Error Program

def Call.perform (c : Call) : Operation c.Answer := Program.call c .done

def StoreCall.perform (c : StoreCall) : Operation c.Answer := (Call.store c).perform

theorem Call.perform_bind (c : Call) (f : c.Answer → Operation α) :
    c.perform >>= f = Program.call c fun
      | .ok answer => f answer
      | .error e => .done (.error e) := by
  show Program.call c _ = _
  congr 1
  funext answer
  cases answer <;> rfl

end StatusTimeline
