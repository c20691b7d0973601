import StatusTimeline.Config.Environment
import StatusTimeline.Proofs.Text.Blank

/-!
This module contains what a variable of the environment gives, in terms of the bytes that it is set to: what they write,
its default, or an error. Variables are read one after the other, and the first that is refused ends that.
-/

namespace StatusTimeline

/--
The environment of a process, whose variables are set to bytes. Those that are not UTF-8 count as unset.
-/
def Environment.ofBytes (values : String → Option ByteArray) : Environment where
  lookup key := (values key).bind String.fromUTF8?

theorem fromUTF8?_eq_some_iff {bytes : ByteArray} {s : String} :
    String.fromUTF8? bytes = some s ↔ bytes = s.toUTF8 := by
  unfold String.fromUTF8?
  constructor
  . intro h
    split at h
    . cases h
      rfl
    . cases h
  . rintro rfl
    exact dif_pos s.isValidUTF8

theorem Environment.lookup_ofBytes {values : String → Option ByteArray} {key raw : String} :
    (ofBytes values).lookup key = some raw ↔ values key = some raw.toUTF8 := by
  unfold ofBytes
  rw [Option.bind_eq_some_iff]
  constructor
  . rintro ⟨bytes, hbytes, hraw⟩
    rw [hbytes, fromUTF8?_eq_some_iff.1 hraw]
  . intro h
    exact ⟨_, h, fromUTF8?_eq_some_iff.2 rfl⟩

theorem trims_iff_trimmed {raw text : String} : Trims raw.toList text.toList ↔ trimmed raw = text := by
  rw [trims_iff, trimmed, ← String.toList_inj, String.toList_ofList]

/--
A variable of the environment: how it is read, and which texts write which values of it.
-/
structure Variable (α : Type) where
  key : String
  default : α
  parse : String → Option α
  Writes : String → α → Prop
  parse_eq_some_iff : ∀ text a, parse text = some a ↔ Writes text a

namespace Variable

variable {α : Type} {x : Variable α} {values : String → Option ByteArray} {a : α} {err : ConfigError}

def read (x : Variable α) (env : Environment) : Except ConfigError α := env.getOr x.key x.parse x.default

/--
The value of a variable: what its text writes without the blanks at its ends, or the default when it is set to no text.
-/
inductive Gives (x : Variable α) (values : String → Option ByteArray) : α → Prop where
  | written {raw text : String} {a : α} (hset : values x.key = some raw.toUTF8)
      (htrims : Trims raw.toList text.toList) (hwrites : x.Writes text a) : Gives x values a
  | unset (hunset : ∀ raw : String, values x.key ≠ some raw.toUTF8) : Gives x values x.default

/--
The error of a variable whose text writes no value. It has the text as it is, with the blanks at its ends.
-/
inductive Refuses (x : Variable α) (values : String → Option ByteArray) : ConfigError → Prop where
  | unwritten {raw : String} (hset : values x.key = some raw.toUTF8)
      (hnone : ∀ (text : String) (a : α), Trims raw.toList text.toList → ¬ x.Writes text a) :
      Refuses x values (.invalid x.key raw)

theorem read_of_unset (hunset : ∀ raw : String, values x.key ≠ some raw.toUTF8) :
    x.read (.ofBytes values) = .ok x.default := by
  have hnone : (Environment.ofBytes values).lookup x.key = none := by
    rw [Option.eq_none_iff_forall_ne_some]
    intro raw hraw
    exact hunset raw (Environment.lookup_ofBytes.1 hraw)
  unfold read Environment.getOr
  rw [hnone]

theorem read_of_set {raw : String} (hset : values x.key = some raw.toUTF8) :
    x.read (.ofBytes values) = match x.parse (trimmed raw) with
      | some a => .ok a
      | none => .error (.invalid x.key raw) := by
  unfold read Environment.getOr
  rw [Environment.lookup_ofBytes.2 hset]
  rfl

theorem Gives.read_eq (h : x.Gives values a) : x.read (.ofBytes values) = .ok a := by
  cases h with
  | written hset htrims hwrites =>
    rw [read_of_set hset, trims_iff_trimmed.1 htrims, (x.parse_eq_some_iff _ _).2 hwrites]
  | unset hunset => exact read_of_unset hunset

theorem Refuses.read_eq (h : x.Refuses values err) : x.read (.ofBytes values) = .error err := by
  cases h with
  | @unwritten raw hset hnone =>
    have hparse : x.parse (trimmed raw) = none := by
      rw [Option.eq_none_iff_forall_ne_some]
      intro a ha
      exact hnone _ a (trims_iff_trimmed.2 rfl) ((x.parse_eq_some_iff _ _).1 ha)
    rw [read_of_set hset, hparse]

/--
Every variable gives a value or is refused. By the equations above it does not do both.
-/
theorem gives_or_refuses (x : Variable α) (values : String → Option ByteArray) :
    (∃ a, x.Gives values a) ∨ ∃ err, x.Refuses values err := by
  by_cases hset : ∃ raw : String, values x.key = some raw.toUTF8
  . obtain ⟨raw, hset⟩ := hset
    cases hparse : x.parse (trimmed raw) with
    | some a => exact .inl ⟨a, .written hset (trims_iff_trimmed.2 rfl) ((x.parse_eq_some_iff _ _).1 hparse)⟩
    | none =>
      refine .inr ⟨_, .unwritten hset ?_⟩
      intro text a htrims hwrites
      rw [trims_iff_trimmed.1 htrims, (x.parse_eq_some_iff _ _).2 hwrites] at hparse
      cases hparse
  . exact .inl ⟨x.default, .unset (not_exists.1 hset)⟩

/--
The error of the first of some variables that is refused.
-/
inductive FirstRefused (values : String → Option ByteArray) : List (Sigma Variable) → ConfigError → Prop where
  | here {x : Sigma Variable} {xs : List (Sigma Variable)} {err : ConfigError} (h : x.2.Refuses values err) :
      FirstRefused values (x :: xs) err
  | later {x : Sigma Variable} {xs : List (Sigma Variable)} {a : x.1} {err : ConfigError} (h : x.2.Gives values a)
      (hrest : FirstRefused values xs err) : FirstRefused values (x :: xs) err

section Bind

variable {β : Type} {f : α → Except ConfigError β}

theorem read_bind_eq_ok_iff {P : α → Prop} {b : β} (h : ∀ a, f a = .ok b ↔ P a) :
    x.read (.ofBytes values) >>= f = .ok b ↔ ∃ a, x.Gives values a ∧ P a := by
  constructor
  . intro hbind
    rcases x.gives_or_refuses values with ⟨a, ha⟩ | ⟨err, herr⟩
    . rw [ha.read_eq] at hbind
      exact ⟨a, ha, (h a).1 hbind⟩
    . rw [herr.read_eq] at hbind
      cases hbind
  . rintro ⟨a, ha, hP⟩
    rw [ha.read_eq]
    exact (h a).2 hP

/--
A variable more before the others: it is refused, or it gives a value and the rest goes wrong.
-/
theorem read_bind_eq_error_iff {P : α → Prop} {xs : List (Sigma Variable)}
    (h : ∀ a, f a = .error err ↔ FirstRefused values xs err ∨ P a) :
    x.read (.ofBytes values) >>= f = .error err ↔
      FirstRefused values (⟨α, x⟩ :: xs) err ∨ ∃ a, x.Gives values a ∧ P a := by
  constructor
  . intro hbind
    rcases x.gives_or_refuses values with ⟨a, ha⟩ | ⟨err', herr⟩
    . rw [ha.read_eq] at hbind
      exact ((h a).1 hbind).imp (.later ha) (fun hP => ⟨a, ha, hP⟩)
    . have heq := herr.read_eq
      rw [heq] at hbind
      cases hbind
      exact .inl (.here herr)
  . rintro (hfirst | ⟨a, ha, hP⟩)
    . cases hfirst with
      | here herr =>
        have heq := herr.read_eq
        rw [heq]
        rfl
      | @later _ _ a _ ha hrest =>
        have heq := ha.read_eq
        rw [heq]
        exact (h a).2 (.inl hrest)
    . rw [ha.read_eq]
      exact (h a).2 (.inr hP)

end Bind

end Variable

end StatusTimeline
