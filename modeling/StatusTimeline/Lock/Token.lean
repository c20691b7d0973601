/-!
This module contains tokens, the proofs of holding a lock.
-/

namespace StatusTimeline

inductive Hold where
  /-- By a claim on a slot of an in-process provider. Providers are told apart by numbers. -/
  | claim (provider ticket : Nat)
  | lease (id : Nat)
deriving DecidableEq, Inhabited, Repr

structure Token where
  key : String
  hold : Hold
deriving DecidableEq, Inhabited, Repr

end StatusTimeline
