import StatusTimeline.Config.Core
import StatusTimeline.Proofs.Config.Variable

/-!
This module contains which variables the settings come from that all services share. Those of the service itself and those
of the platform are never mixed: when the service names a database of its own, its other settings are its own, too, and
else nothing of its own counts. Loading a file sets variables of the process, from texts of its own and from variables that
are set already. Nothing is assumed of that here: the platform's variables are those that the process finds afterwards.
-/

namespace StatusTimeline

namespace Environment

/--
Two processes find the same bytes, or none, in all variables whose names begin with `lead`.
-/
def AgreeOn (lead : String) (values values' : String → Option ByteArray) : Prop :=
  ∀ name, values (lead ++ name) = values' (lead ++ name)

/--
Whether a variable is set, and to UTF-8.
-/
def Readable (values : String → Option ByteArray) (key : String) : Prop :=
  ∃ raw : String, values key = some raw.toUTF8

variable {values values' : String → Option ByteArray} {key : String}

theorem AgreeOn.readable {lead : String} (h : AgreeOn lead values values') (name : String)
    (hvalue : Readable values (lead ++ name)) : Readable values' (lead ++ name) := by
  obtain ⟨raw, hraw⟩ := hvalue
  exact ⟨raw, (h name).symm.trans hraw⟩

end Environment

namespace CoreConfig

open Environment

variable {values values' loaded : String → Option ByteArray} {env : Environment}

/--
A process whose own name of a database is not UTF-8.
-/
def garbled : String → Option ByteArray
  | "TIMELINE_DATABASE_URL" => some ⟨#[255]⟩
  | "TIMELINE_ENV" => some "production".toUTF8
  | "TIMELINE_NODE_NAME" => some "edge".toUTF8
  | "DATABASE_URL" => some "postgres://shared".toUTF8
  | _ => none

end CoreConfig

end StatusTimeline
