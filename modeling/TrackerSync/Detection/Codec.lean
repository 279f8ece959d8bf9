import TrackerSync.Detection.Basic
import TrackerSync.Snapshot.Codec

/-!
The JSON form of changes, conflicts and detections, with names in snake case.
-/

namespace TrackerSync

def Field.shape : Json.Shape := .choice Field.names

def Direction.shape : Json.Shape := .choice ["to_local", "to_remote"]

def Direction.ofName? : String → Option Direction
  | "to_local" => some .toLocal
  | "to_remote" => some .toRemote
  | _ => none

namespace FieldChange

def toJson (c : FieldChange) : Json :=
  Json.record [("field", .str c.field.name), ("direction", .str c.direction.name),
    ("value", c.value.toJson)]

def shape : Json.Shape :=
  .record "FieldChange" [("field", Field.shape, .required), ("direction", Direction.shape, .required),
    ("value", FieldValue.shape, .required)]

def ofChecked (j : Json) : FieldChange :=
  { field := ((j.getStr? "field").bind Field.ofName?).getD .title
    direction := ((j.getStr? "direction").bind Direction.ofName?).getD .toLocal
    value := FieldValue.ofChecked ((j.get? "value").getD .null) }

end FieldChange

namespace ConflictRecord

def toJson (c : ConflictRecord) : Json :=
  Json.record [("field", .str c.field.name), ("local_value", c.localValue.toJson),
    ("remote_value", c.remoteValue.toJson), ("base_value", c.baseValue.toJson)]

def shape : Json.Shape :=
  .record "ConflictRecord" [("field", Field.shape, .required),
    ("local_value", FieldValue.shape, .required), ("remote_value", FieldValue.shape, .required),
    ("base_value", FieldValue.shape, .required)]

def ofChecked (j : Json) : ConflictRecord :=
  { field := ((j.getStr? "field").bind Field.ofName?).getD .title
    localValue := FieldValue.ofChecked ((j.get? "local_value").getD .null)
    remoteValue := FieldValue.ofChecked ((j.get? "remote_value").getD .null)
    baseValue := FieldValue.ofChecked ((j.get? "base_value").getD .null) }

end ConflictRecord

/-- The JSON object of a seed field: its values and the direction, if any. -/
def SeedField.toJson (f : SeedField) : Json :=
  Json.mkObj [("field", .str f.field.name), ("local", f.localValue.toJson),
    ("remote", f.remoteValue.toJson),
    ("direction", match f.direction with
      | some d => .str d.name
      | none => .null)]

/-- The JSON object of a verdict: its classification and the three values. -/
def FieldVerdict.toJson (v : FieldVerdict) : Json :=
  Json.mkObj [("field", .str v.field.name), ("classification", .str v.verdict.name),
    ("base", v.baseValue.toJson), ("local", v.localValue.toJson), ("remote", v.remoteValue.toJson)]

def Detection.fieldsJson : Detection → Json
  | .seed fields => .arr (fields.map SeedField.toJson)
  | .classified verdicts => .arr (verdicts.map FieldVerdict.toJson)

end TrackerSync
