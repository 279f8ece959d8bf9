import TrackerSync.Text.Blank
import TrackerSync.Text.Case
import TrackerSync.Text.EditDistance
import TrackerSync.Json.Value

/-!
The status vocabulary: six canonical statuses, their synonyms, and a suggestion for an unknown
status.
-/

namespace TrackerSync

def canonicalStatuses : List String := ["backlog", "todo", "in-progress", "blocked", "review", "done"]

def statusSynonyms : List (String × String) :=
  [("open", "todo"), ("opened", "todo"), ("new", "todo"), ("pending", "todo"),
   ("to-do", "todo"), ("to_do", "todo"),
   ("in_progress", "in-progress"), ("in progress", "in-progress"), ("inprogress", "in-progress"),
   ("wip", "in-progress"), ("started", "in-progress"), ("active", "in-progress"),
   ("doing", "in-progress"),
   ("waiting", "blocked"), ("on-hold", "blocked"),
   ("in-review", "review"), ("in_review", "review"), ("reviewing", "review"),
   ("closed", "done"), ("complete", "done"), ("completed", "done"), ("finished", "done"),
   ("resolved", "done"),
   ("deferred", "backlog"), ("later", "backlog"), ("icebox", "backlog")]

/-- What an unknown status is probably meant to be. -/
inductive Suggestion where
  /-- Nothing is within three edits. -/
  | none
  /-- One status is nearest. -/
  | one (status : String)
  /-- Several statuses are equally near (sorted, at least two). -/
  | oneOf (statuses : List String)
  deriving BEq, Repr

def Suggestion.toJson : Suggestion → Json
  | .none => .null
  | .one s => .str s
  | .oneOf ss => Json.mkObj [("one_of", Json.ofStrings ss)]

namespace Status

def key (input : String) : String := Text.lower (Text.trim input)

def lookup (k : String) : Option String :=
  if canonicalStatuses.contains k then some k
  else (statusSynonyms.find? (·.1 == k)).map (·.2)

/-- Every candidate with the status it shows: the canonical ones, then the synonyms. -/
def candidates : List (String × String) :=
  canonicalStatuses.map (fun s => (s, s)) ++ statusSynonyms

def insertSorted (s : String) : List String → List String
  | [] => [s]
  | t :: ts => if s < t then s :: t :: ts else if s == t then t :: ts else t :: insertSorted s ts

def suggest (k : String) : Suggestion :=
  let scored := candidates.filterMap fun (c, shown) =>
    let d := Text.distance k c
    if d ≤ 3 then some (d, shown) else Option.none
  match scored.map (·.1) |>.min? with
  | Option.none => .none
  | some best =>
    match (scored.filter (·.1 == best)).foldr (fun (_, s) acc => insertSorted s acc) [] with
    | [s] => .one s
    | ss => .oneOf ss

/-- The status a candidate shows: a synonym its target, any other candidate itself. -/
def shownOf (v : String) : String := (statusSynonyms.lookup v).getD v

/-- One step of the scan for the nearest candidate: `v` becomes the best when it is within three
edits and strictly nearer than the best so far. -/
def scanStep (k : String) (best : Option (String × Nat)) (v : String) : Option (String × Nat) :=
  let d := Text.distance k v
  if d ≤ 3 && best.all (fun b => d < b.2) then some (shownOf v, d) else best

/-- The nearest candidate as one scan finds it, the canonical statuses then the synonyms, each in an
unspecified order; `suggest` lists the statuses of all nearest candidates instead. -/
def closestMatch (k : String) (valid synonyms : List String) : Option String :=
  ((valid ++ synonyms).foldl (scanStep k) Option.none).map (·.1)

/-- Resolve a status: its canonical form, or the input back with a suggestion. -/
def resolve (input : String) : Except (String × Suggestion) String :=
  let k := key input
  match lookup k with
  | some s => .ok s
  | Option.none => .error (input, suggest k)

/-- The canonical form of a status, or its key when it is unknown (so that two sides with the
same unknown status still agree). -/
def canonical (input : String) : String :=
  match lookup (key input) with
  | some s => s
  | Option.none => key input

end Status

end TrackerSync
