import TrackerSync.Json.Value

/-!
The outcome of reading a value that may be missing or malformed: present, or absent with a
reason and a detail.
-/

namespace TrackerSync

/-- Why a value could not be produced. -/
inductive Degrade where
  /-- The field or record was not there. -/
  | missing
  /-- An empty mapping or a `null` payload. -/
  | empty
  /-- A value of a kind that is not read (a number, an array, ...). -/
  | unsupportedShape
  /-- A string that does not parse. -/
  | unparseable
  /-- A record without an id. -/
  | missingId
  deriving BEq, DecidableEq, Repr, Inhabited

def Degrade.name : Degrade → String
  | .missing => "missing"
  | .empty => "empty"
  | .unsupportedShape => "unsupported_shape"
  | .unparseable => "unparseable"
  | .missingId => "missing_id"

/-- A reason with what it is about. -/
structure Degraded where
  reason : Degrade
  detail : String
  deriving BEq, DecidableEq, Repr, Inhabited

def Degraded.display (d : Degraded) : String := d.reason.name ++ ": " ++ d.detail

def Degraded.toJson (d : Degraded) : Json :=
  Json.mkObj [("reason", .str d.reason.name), ("detail", .str d.detail), ("display", .str d.display)]

/-- A value, or why there is none. -/
inductive Normalized (α : Type) where
  | present (value : α)
  | absent (why : Degraded)
  deriving BEq, Repr

namespace Normalized

def toOption {α : Type} : Normalized α → Option α
  | .present a => some a
  | .absent _ => none

def isPresent {α : Type} : Normalized α → Bool
  | .present _ => true
  | .absent _ => false

def toJson {α : Type} (valueJson : α → Json) : Normalized α → Json
  | .present a => Json.mkObj [("present", valueJson a)]
  | .absent d => Json.mkObj [("absent", d.toJson)]

end Normalized

end TrackerSync
