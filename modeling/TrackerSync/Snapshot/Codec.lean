import TrackerSync.Snapshot.Basic
import TrackerSync.Json.Decode
import TrackerSync.Time.Parse

/-!
The JSON form of snapshots and field values.
-/

namespace TrackerSync

def instantJson : Option Time.Instant → Json
  | some t => .str t.text
  | none => .null

def timestampShape : Json.Shape :=
  .checked "an RFC 3339 formatted date and time string" fun s =>
    match Time.relaxed s with
    | .ok t => .ok (.str t.text)
    | .error e => .error e.message

namespace FieldValue

/-- What a field value is read from: `null` or a string, else a list of strings. -/
def shape : Json.Shape := .either "FieldValue" [.optional .text, .list .text]

def ofChecked : Json → FieldValue
  | .arr items => .list (items.filterMap Json.asStr?)
  | .str s => .text (some s)
  | _ => .text none

def ofJson (j : Json) : Except String FieldValue := (shape.check j).map ofChecked

end FieldValue

namespace Snapshot

def toJson (s : Snapshot) : Json :=
  Json.record [("id", .str s.id), ("title", Json.ofOption s.title),
    ("status", Json.ofOption s.status), ("assignee", Json.ofOption s.assignee),
    ("milestone", Json.ofOption s.milestone), ("description", Json.ofOption s.description),
    ("labels", Json.ofStrings s.labels), ("updated_at", instantJson s.updatedAt)]

def shape : Json.Shape :=
  .record "NormalizedSnapshot"
    [("id", .text, .required),
     ("title", .optional .text, .fallback .null),
     ("status", .optional .text, .fallback .null),
     ("assignee", .optional .text, .fallback .null),
     ("milestone", .optional .text, .fallback .null),
     ("description", .optional .text, .fallback .null),
     ("labels", .list .text, .fallback (.arr [])),
     ("updated_at", .optional timestampShape, .fallback .null)]

def ofChecked (j : Json) : Snapshot :=
  { id := (j.getStr? "id").getD ""
    title := j.getStr? "title"
    status := j.getStr? "status"
    assignee := j.getStr? "assignee"
    milestone := j.getStr? "milestone"
    description := j.getStr? "description"
    labels := ((j.get? "labels").map Json.strings).getD []
    updatedAt := (j.getStr? "updated_at").bind fun t => (Time.relaxed t).toOption }

def ofJson (j : Json) : Except String Snapshot := (shape.check j).map ofChecked

def decode (text : String) : Except Json.JsonError Snapshot := (shape.decode text).map ofChecked

end Snapshot

end TrackerSync
