import TrackerSync.Entity.Kind
import TrackerSync.Json.Decode

/-!
Local work items: the copy kept on this side.
-/

namespace TrackerSync

/-- A local work item. -/
structure Entity where
  id : String
  kind : Kind
  title : String
  status : String
  assignee : Option String := none
  milestone : Option String := none
  description : Option String := none
  labels : List String := []
  /-- Unix milliseconds. -/
  updatedAt : Int
  deriving BEq, DecidableEq, Repr, Inhabited

namespace Entity

def toJson (e : Entity) : Json :=
  Json.record [("id", .str e.id), ("kind", .str e.kind.name), ("title", .str e.title),
    ("status", .str e.status), ("assignee", Json.ofOption e.assignee),
    ("milestone", Json.ofOption e.milestone), ("description", Json.ofOption e.description),
    ("labels", Json.ofStrings e.labels), ("updated_at", Json.ofInt e.updatedAt)]

def i64Shape : Json.Shape := .signed "i64" (-9223372036854775808) 9223372036854775807

def shape : Json.Shape :=
  .record "LocalEntity"
    [("id", .text, .required),
     ("kind", .choice (Kind.all.map Kind.name), .required),
     ("title", .text, .required),
     ("status", .text, .required),
     ("assignee", .optional .text, .optional),
     ("milestone", .optional .text, .optional),
     ("description", .optional .text, .optional),
     ("labels", .list .text, .fallback (.arr [])),
     ("updated_at", i64Shape, .required)]

def intOf : Json → Int
  | .num (.nat n) => n
  | .num (.neg n) => -(n : Int)
  | _ => 0

def ofChecked (j : Json) : Entity :=
  { id := (j.getStr? "id").getD ""
    kind := ((j.getStr? "kind").bind Kind.ofName?).getD .issue
    title := (j.getStr? "title").getD ""
    status := (j.getStr? "status").getD ""
    assignee := j.getStr? "assignee"
    milestone := j.getStr? "milestone"
    description := j.getStr? "description"
    labels := Json.strings ((j.get? "labels").getD (.arr []))
    updatedAt := intOf ((j.get? "updated_at").getD .null) }

def ofJson (j : Json) : Except String Entity := (shape.check j).map ofChecked

end Entity

end TrackerSync
