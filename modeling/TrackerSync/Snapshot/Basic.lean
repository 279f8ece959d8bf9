import TrackerSync.Time.Instant
import TrackerSync.Text.Blank
import TrackerSync.Text.Debug
import TrackerSync.Json.Value

/-!
Snapshots: the one record every version of a work item is reduced to before comparison.
-/

namespace TrackerSync

/-- A comparable field of a snapshot. -/
inductive Field where
  | title
  | status
  | assignee
  | milestone
  | description
  | labels
  deriving BEq, DecidableEq, Repr, Inhabited

namespace Field

def all : List Field := [.title, .status, .assignee, .milestone, .description, .labels]

def name : Field → String
  | .title => "title"
  | .status => "status"
  | .assignee => "assignee"
  | .milestone => "milestone"
  | .description => "description"
  | .labels => "labels"

def ofName? (s : String) : Option Field := all.find? (·.name == s)

def names : List String := all.map name

end Field

/-- The value of one field: a text (possibly missing) or a list of labels. -/
inductive FieldValue where
  | text (value : Option String)
  | list (items : List String)
  deriving BEq, DecidableEq, Repr, Inhabited

namespace FieldValue

/-- Whether a value carries no information: a missing or empty text, or an empty list. -/
def isEmpty : FieldValue → Bool
  | .text none => true
  | .text (some t) => t.isEmpty
  | .list items => items.isEmpty

/-- The JSON form of a value, as it is pushed to a tracker. -/
def toJson : FieldValue → Json
  | .text (some t) => .str t
  | .text none => .null
  | .list items => Json.ofStrings items

/-- How a value is shown to people: a text quoted with escapes, `(empty)` for a missing text,
a list between brackets joined by `, `. -/
def display : FieldValue → String
  | .text (some t) => Text.quoted t
  | .text none => "(empty)"
  | .list [] => "[]"
  | .list items => "[" ++ ", ".intercalate items ++ "]"

end FieldValue

def dedupAdjacent : List String → List String
  | a :: b :: rest => if a == b then dedupAdjacent (b :: rest) else a :: dedupAdjacent (b :: rest)
  | l => l

/-- Labels in canonical form: each trimmed, empty ones dropped, sorted by code points, repeats
removed. -/
def canonicalLabels (labels : List String) : List String :=
  dedupAdjacent (((labels.map Text.trim).filter (fun l => !l.isEmpty)).mergeSort
    (fun a b => !(b < a)))

def nonEmpty (s : Option String) : Option String :=
  match s with
  | some t => if t.isEmpty then none else some t
  | none => none

/-- The canonical record of a work item. -/
structure Snapshot where
  id : String
  title : Option String := none
  status : Option String := none
  assignee : Option String := none
  milestone : Option String := none
  description : Option String := none
  labels : List String := []
  updatedAt : Option Time.Instant := none
  deriving BEq, DecidableEq, Repr, Inhabited

namespace Snapshot

/-- Read one comparable field: a text field as a text (empty reads as missing), the labels as
stored. -/
def get (s : Snapshot) : Field → FieldValue
  | .title => .text (nonEmpty s.title)
  | .status => .text (nonEmpty s.status)
  | .assignee => .text (nonEmpty s.assignee)
  | .milestone => .text (nonEmpty s.milestone)
  | .description => .text (nonEmpty s.description)
  | .labels => .list s.labels

/-- The text a value leaves in a text field: an empty text or an empty list leaves none, a list
is joined with commas. -/
def textOf : FieldValue → Option String
  | .text t => nonEmpty t
  | .list [] => none
  | .list items => some (",".intercalate items)

/-- The labels a value leaves: a list made canonical, or a text split on commas and made
canonical. -/
def labelsOf : FieldValue → List String
  | .list items => canonicalLabels items
  | .text t => canonicalLabels ((t.getD "").splitOn ",")

def set (s : Snapshot) : Field → FieldValue → Snapshot
  | .title, v => { s with title := textOf v }
  | .status, v => { s with status := textOf v }
  | .assignee, v => { s with assignee := textOf v }
  | .milestone, v => { s with milestone := textOf v }
  | .description, v => { s with description := textOf v }
  | .labels, v => { s with labels := labelsOf v }

def canonicalize (s : Snapshot) : Snapshot :=
  { s with
    title := nonEmpty s.title
    status := nonEmpty s.status
    assignee := nonEmpty s.assignee
    milestone := nonEmpty s.milestone
    description := nonEmpty s.description
    labels := canonicalLabels s.labels }

end Snapshot

end TrackerSync
