import StatusTimeline.Proofs.Wire.Variants

/-!
This module contains the round trip of values through their texts. What is read from the text of a value in range is that
value, and changes that have no effect on a form do not change what is read.
-/

namespace StatusTimeline

namespace Wire

def write (w : Wire) (x : w.Value) : String := (w.toJson x).text

def read? (w : Wire) (s : String) : Option w.Value := (Json.ofText? s).bind fun v => (w.ofJson v).toOption

theorem read?_text {v : Json} (h : v.Plain) (w : Wire) : w.read? v.text = (w.ofJson v).toOption := by
  rw [read?, h.ofText?_text]
  rfl

theorem read?_write {w : Wire} {x : w.Value} (h : w.InRange x) : w.read? (w.write x) = some x := by
  rw [write, read?_text (plain_toJson h.numbers), ofJson_toJson h]
  rfl

/--
A value in range is read from its text as it was written. Forms that differ only in what has no effect are read as the
same value, or both of them not at all, and a violation with a member that it cannot bear is never read.
-/
theorem roundtrip {w : Wire} {x : w.Value} (h : w.InRange x) :
    w.read? (w.write x) = some x ∧
      (∀ v v', w.Variant v v' → ∀ y, w.ofJson v = .ok y ↔ w.ofJson v' = .ok y) ∧
      ∀ name v members, ¬ w.Bears v → ∀ y, w.ofJson (.obj ((name, v) :: members)) ≠ .ok y := by
  have hok : ∀ (fit : Fit w.Value) y, fit = .ok y ↔ fit.toOption = some y := by
    intro fit y
    cases fit <;> simp [Except.toOption]
  refine ⟨read?_write h, ?_, ?_⟩
  . intro v v' hvariant y
    rw [hok, hok, hvariant.ofJson_eq]
  . intro name v members hborne y
    rw [Ne, hok, ofJson_refused hborne]
    exact nofun

/--
A gap from half a second into a leap second to a moment in the year 12017.
-/
theorem roundtrip_leap_second :
    let gap : Violation :=
      .gap (.ofSerial 1) (.ofSerial 2) (.ofParts 1483228799 1500000000) (.ofParts 317052662399 7)
    violation.InRange gap ∧ violation.read? (violation.write gap) = some gap ∧
      (∀ v v', violation.Variant v v' → ∀ y, violation.ofJson v = .ok y ↔ violation.ofJson v' = .ok y) ∧
      ∀ name v members, ¬ violation.Bears v → ∀ y, violation.ofJson (.obj ((name, v) :: members)) ≠ .ok y := by
  have hrange : violation.InRange
      (.gap (.ofSerial 1) (.ofSerial 2) (.ofParts 1483228799 1500000000) (.ofParts 317052662399 7)) :=
    ⟨by decide, trivial⟩
  exact ⟨hrange, roundtrip hrange⟩

/--
An array in so many others, and nothing else.
-/
def nested : Nat → Json
  | 0 => .arr []
  | n + 1 => .arr [nested n]

theorem plain_nested (n : Nat) : (nested n).Plain := by
  induction n with
  | zero => exact .arr nofun
  | succ n ih => exact .arr (List.forall_mem_singleton.2 ih)

theorem depth_nested (n : Nat) : (nested n).depth = n + 1 := by
  induction n with
  | zero => rfl
  | succ n ih => rw [nested, Json.depth, Json.itemsDepth, Json.itemsDepth, ih, Nat.max_zero]

/--
A member of an unknown name that nests too deep keeps a violation from being read.
-/
theorem deep_member_refused :
    "x" ∉ violation.names [("kind", .str "no_open_interval")] ∧
      violation.read? (Json.obj [("kind", .str "no_open_interval")]).text = some .noOpenInterval ∧
      violation.read? (Json.obj [("x", nested 126), ("kind", .str "no_open_interval")]).text = none := by
  have hplain : (Json.obj [("kind", .str "no_open_interval")]).Plain := by simp [Json.plain_obj]
  have hdeep : (Json.obj [("x", nested 126), ("kind", .str "no_open_interval")]).Plain := by
    simp [Json.plain_obj, plain_nested]
  have hborne : ¬ violation.Bears (nested 126) := by
    intro h
    have hdepth := (h rfl).2
    rw [depth_nested] at hdepth
    exact absurd hdepth (by decide)
  rw [read?_text hplain, read?_text hdeep]
  exact ⟨by decide, rfl, ofJson_refused hborne "x" _⟩

end Wire

end StatusTimeline
