import StatusTimeline.Proofs.Timeline.Joined

/-!
This module contains linked lists of intervals, in which each interval ends at an instant that the next one gives, its
start or its creation, and the last one is open. Of a joined timeline nothing but the ends follows from the order of
its intervals, so that it is the linking of whatever list it agrees with up to the ends.
-/

namespace StatusTimeline

namespace Interval

def reopened (i : Interval) : Interval := { i with endsAt := none }

/--
End each interval at an instant that the next one gives, and leave the last one open.
-/
def linked (instant : Interval → Instant) : List Interval → List Interval
  | [] => []
  | i :: is => { i with endsAt := is.head?.map instant } :: linked instant is

variable {instant : Interval → Instant} {is js : List Interval} {e : Option Instant}

theorem reopened_eq {i : Interval} (h : i.endsAt = none) : i.reopened = i := by
  unfold reopened
  rw [← h]

theorem reopened_endAt (id : Uuid) (e : Option Instant) (i : Interval) : (endAt id e i).reopened = i.reopened := by
  unfold endAt
  split <;> rfl

theorem map_reopened_linked (instant : Interval → Instant) (is : List Interval) :
    (linked instant is).map reopened = is.map reopened := by
  induction is with
  | nil => rfl
  | cons i is ih =>
    rw [linked, List.map_cons, List.map_cons, ih]
    rfl

/--
Linking changes nothing of the intervals that can be told without their ends.
-/
theorem map_linked {α : Type} {f : Interval → α} (hf : ∀ i, f i.reopened = f i) :
    (linked instant is).map f = is.map f := by
  have hcomp : f ∘ reopened = f := funext hf
  have hmap := congrArg (List.map f) (map_reopened_linked instant is)
  simpa only [List.map_map, hcomp] using hmap

theorem joined_linked : Joined none (linked (·.startsAt) is) := by
  induction is with
  | nil => trivial
  | cons i is ih =>
    refine ⟨?_, ih⟩
    cases is <;> rfl

theorem beginOr_map_reopened (is : List Interval) : beginOr e (is.map reopened) = beginOr e is := by
  cases is <;> rfl

/--
Joined lists that differ in no more than the ends are equal.
-/
theorem Joined.eq_of_reopened (hi : Joined e is) (hj : Joined e js) (h : is.map reopened = js.map reopened) :
    is = js := by
  induction is generalizing js with
  | nil =>
    cases js with
    | nil => rfl
    | cons j js => cases h
  | cons i is ih =>
    cases js with
    | nil => cases h
    | cons j js =>
      obtain ⟨hij, hrest⟩ := List.cons.inj h
      have hend : i.endsAt = j.endsAt := by rw [hi.1, hj.1, ← beginOr_map_reopened, hrest, beginOr_map_reopened]
      have hhead : i = j := by
        cases i
        cases j
        simp_all [reopened]
      rw [hhead, ih hi.2 hj.2 hrest]

theorem Joined.eq_linked (hi : Joined none is) (h : is.map reopened = js.map reopened) :
    is = linked (·.startsAt) js :=
  hi.eq_of_reopened joined_linked (h.trans (map_reopened_linked _ js).symm)

theorem getLast?_linked (h : ∀ i ∈ is, i.endsAt = none) : (linked instant is).getLast? = is.getLast? := by
  induction is with
  | nil => rfl
  | cons i is ih =>
    cases is with
    | nil => exact congrArg some (reopened_eq (h i List.mem_cons_self))
    | cons j js =>
      rw [List.getLast?_cons_cons, ← ih fun k hk => h k (List.mem_cons_of_mem i hk)]
      exact List.getLast?_cons_cons

/--
One more interval ends the one that was last.
-/
theorem linked_concat {as : List Interval} {b n : Interval} (h : ((as ++ [b]).map (·.id)).Nodup)
    (hn : n.endsAt = none) :
    linked instant (as ++ [b] ++ [n]) = (linked instant (as ++ [b])).map (endAt b.id (some (instant n))) ++ [n] := by
  induction as with
  | nil => simp [linked, endAt, ← hn]
  | cons a as ih =>
    rw [List.cons_append, List.map_cons, List.nodup_cons] at h
    have hne : a.id ≠ b.id := by
      intro heq
      exact h.1 (by simp [heq])
    simp only [List.cons_append, linked, ih h.2, List.map_cons]
    cases as <;> simp [endAt, hne]

end Interval

end StatusTimeline
