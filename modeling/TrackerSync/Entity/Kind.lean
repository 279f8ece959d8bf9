import TrackerSync.Text.Case

/-!
Kinds of work items: issues, milestones and projects, each with a default endpoint and a prefix
for local ids.
-/

namespace TrackerSync

/-- The kind of a work item. -/
inductive Kind where
  | issue
  | milestone
  | project
  deriving BEq, DecidableEq, Repr, Inhabited

namespace Kind

def all : List Kind := [.issue, .milestone, .project]

def name : Kind → String
  | .issue => "issue"
  | .milestone => "milestone"
  | .project => "project"

def endpoint : Kind → String
  | .issue => "issues"
  | .milestone => "milestones"
  | .project => "projects"

def idPrefix : Kind → String
  | .issue => "issue"
  | .milestone => "ms"
  | .project => "proj"

def parse (s : String) : Except String Kind :=
  match Text.lower s with
  | "issue" | "issues" => .ok .issue
  | "milestone" | "milestones" => .ok .milestone
  | "project" | "projects" => .ok .project
  | _ => .error ("Unknown entity kind: " ++ s)

def ofName? (s : String) : Option Kind := all.find? (·.name == s)

end Kind

end TrackerSync
