/-!
This module contains the paging of lists.
-/

namespace StatusTimeline

/--
A window of a list: how many elements to leave out and how many to take at most.
-/
structure PageQuery where
  limit : Option Int := none
  offset : Option Int := none
deriving DecidableEq, Inhabited, Repr

/--
The window of a list. A negative offset leaves nothing out, a negative limit takes nothing.
-/
def PageQuery.page (q : PageQuery) (items : List α) : List α :=
  let rest := items.drop (q.offset.getD 0).toNat
  match q.limit with
  | some limit => rest.take limit.toNat
  | none => rest

end StatusTimeline
