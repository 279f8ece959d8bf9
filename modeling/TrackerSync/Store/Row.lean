import TrackerSync.Entity.Local
import TrackerSync.Json.Print

/-!
Stored rows of local items: nine columns, read back in the order the reader asks for them.
-/

namespace TrackerSync

/-- A value held in a column. -/
inductive Cell where
  | null
  | integer (n : Int)
  | text (s : String)
  deriving BEq, DecidableEq, Repr, Inhabited

namespace Cell

def typeName : Cell → String
  | .null => "Null"
  | .integer _ => "Integer"
  | .text _ => "Text"

def ofOption : Option String → Cell
  | some s => .text s
  | none => .null

def text? : Cell → Option String
  | .text s => some s
  | _ => none

end Cell

def entityColumns : List String :=
  ["id", "kind", "title", "status", "assignee", "milestone", "description", "labels", "updated_at"]

/-- The stored text of a list of labels: a compact JSON array of strings. -/
def labelsText (labels : List String) : String := Json.compact (Json.ofStrings labels)

namespace Entity

def row (e : Entity) : List Cell :=
  [.text e.id, .text e.kind.name, .text e.title, .text e.status, .ofOption e.assignee,
   .ofOption e.milestone, .ofOption e.description, .text (labelsText e.labels), .integer e.updatedAt]

def wrongType (index : Nat) (cell : Cell) : String :=
  "Invalid column type " ++ cell.typeName ++ " at index: " ++ toString index ++ ", name: " ++
    entityColumns.getD index ""

def cellAt (cells : List Cell) (index : Nat) : Cell := cells.getD index .null

def textAt (cells : List Cell) (index : Nat) : Except String String :=
  match cellAt cells index with
  | .text s => .ok s
  | c => .error (wrongType index c)

def optionAt (cells : List Cell) (index : Nat) : Except String (Option String) :=
  match cellAt cells index with
  | .text s => .ok (some s)
  | .null => .ok none
  | c => .error (wrongType index c)

def integerAt (cells : List Cell) (index : Nat) : Except String Int :=
  match cellAt cells index with
  | .integer n => .ok n
  | c => .error (wrongType index c)

/-- Read a stored row back as a local item, or say why it does not read. -/
def ofRow (cells : List Cell) : Except String Entity := do
  let kind ← textAt cells 1
  let labels ← textAt cells 7
  let id ← textAt cells 0
  let title ← textAt cells 2
  let status ← textAt cells 3
  let assignee ← optionAt cells 4
  let milestone ← optionAt cells 5
  let description ← optionAt cells 6
  let labels ← match (Json.Shape.list .text).decode labels with
    | .ok v => pure (Json.strings v)
    | .error e => throw ("Conversion error from type Text at index: 7, " ++ e.text)
  let updatedAt ← integerAt cells 8
  return { id, kind := (Kind.parse kind).toOption.getD .issue, title, status, assignee, milestone
           description, labels, updatedAt }

/-- The item a stored row is exactly the row of: the item it reads back as, when writing that
item gives the row as stored. -/
def readBack (cells : List Cell) : Option Entity :=
  match ofRow cells with
  | .ok e => if e.row = cells then some e else none
  | .error _ => none

end Entity

end TrackerSync
