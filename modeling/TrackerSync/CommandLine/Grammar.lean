/-!
The command-line grammar: a tree of commands with switches, counted switches, options and
positional values; global arguments reach every command below the top.
-/

namespace TrackerSync.CommandLine

/-- How an argument is given and what it takes. -/
inductive Takes where
  /-- A switch, on when given. -/
  | flag
  /-- A switch counted each time it is given. -/
  | count
  /-- An option with one value, shown as `<placeholder>`. -/
  | value (placeholder : String)
  /-- A positional value, shown as `<placeholder>`; `many` takes every remaining value. -/
  | positional (placeholder : String) (required : Bool) (many : Bool)
  /-- Print help. -/
  | help
  /-- Print the version. -/
  | version
  deriving BEq, Repr, Inhabited

/-- How the values of an argument are read. -/
inductive ValueKind where
  /-- Any text. -/
  | text
  /-- A path: any text but the empty one. -/
  | path
  /-- An unsigned machine-word number. -/
  | count
  /-- One of the argument's choices, exactly. -/
  | choice
  deriving BEq, Repr, Inhabited

/-- An argument of a command. -/
structure Param where
  id : String
  long : Option String := none
  short : Option Char := none
  takes : Takes
  help : String
  /-- The environment variable that gives a value when the argument is not given. -/
  env : Option String := none
  default : Option String := none
  reads : ValueKind := .text
  choices : List String := []
  /-- Accepted by every command below the one that declares it. -/
  global : Bool := false
  /-- Place in help listings; built-in arguments come last. -/
  order : Nat := 999
  deriving Inhabited

namespace Param

def isPositional (p : Param) : Bool :=
  match p.takes with
  | .positional _ _ _ => true
  | _ => false

def takesValue (p : Param) : Bool :=
  match p.takes with
  | .value _ => true
  | _ => false

def isRequired (p : Param) : Bool :=
  match p.takes with
  | .positional _ r _ => r
  | _ => false

/-- How the value of an argument is shown: `<NAME>`, `[NAME]` when optional, `...` when
repeated. -/
def valueText (p : Param) : String :=
  match p.takes with
  | .value n => "<" ++ n ++ ">"
  | .positional n r m => (if r then "<" ++ n ++ ">" else "[" ++ n ++ "]") ++ if m then "..." else ""
  | _ => ""

/-- The argument as messages name it: the long name (else the short one) with its value, or
the value alone for a positional. -/
def display (p : Param) : String :=
  match p.takes with
  | .positional _ _ _ => p.valueText
  | t =>
    let name := match p.long, p.short with
      | some l, _ => "--" ++ l
      | none, some c => "-" ++ String.singleton c
      | none, none => p.id
    match t with
    | .value _ => name ++ " " ++ p.valueText
    | .count => name ++ "..."
    | _ => name

end Param

/-- A command: its place in the tree, what it is for and its own arguments. -/
structure Command where
  /-- The names from the top command down to this one; the top command has none. -/
  path : List String
  about : String
  params : List Param := []
  deriving Inhabited

def helpParam : Param :=
  { id := "help", long := some "help", short := some 'h', takes := .help, help := "Print help" }

def versionParam : Param :=
  { id := "version", long := some "version", short := some 'V', takes := .version
    help := "Print version" }

def helpAbout : String := "Print this message or the help of the given subcommand(s)"

/-- A grammar: the program's name and its commands, parents before children. -/
structure Grammar where
  name : String
  version : String
  commands : List Command
  deriving Inhabited

namespace Grammar

def find? (g : Grammar) (path : List String) : Option Command :=
  g.commands.find? (·.path == path)

def declaredChildren (g : Grammar) (path : List String) : List String :=
  g.commands.filterMap fun c =>
    if c.path.length == path.length + 1 && c.path.take path.length == path then c.path.getLast?
    else none

def hasSubcommands (g : Grammar) (path : List String) : Bool := !(g.declaredChildren path).isEmpty

def children (g : Grammar) (path : List String) : List String :=
  let cs := g.declaredChildren path
  if cs.isEmpty then [] else cs ++ ["help"]

def inheritedGlobals (g : Grammar) (path : List String) : List Param :=
  ((List.range path.length).filterMap fun n => g.find? (path.take n)).flatMap fun c =>
    c.params.filter (·.global)

/-- The arguments a command accepts: its own, the inherited globals it does not declare
itself, help, and at the top the version. -/
def params (g : Grammar) (path : List String) : List Param :=
  let own := ((g.find? path).map (·.params)).getD []
  let inherited := (g.inheritedGlobals path).filter fun p => !own.any (·.id == p.id)
  own ++ inherited ++ [helpParam] ++ if path.isEmpty then [versionParam] else []

def about (g : Grammar) (path : List String) : String :=
  if path.getLast? == some "help" && (g.find? path).isNone then helpAbout
  else ((g.find? path).map (·.about)).getD ""

/-- The name a command is called by in messages: the program's name and the path. -/
def callName (g : Grammar) (path : List String) : String := " ".intercalate (g.name :: path)

end Grammar

/-! The grammar of `tl`. -/

def dbParam : Param :=
  { id := "db", long := some "db", takes := .value "DB", reads := .path, global := true, order := 0
    env := some "TRACKLINK_DB", help := "Database path (default: ~/.tracklink/data/tracklink.db)" }

def actorParam : Param :=
  { id := "actor", long := some "actor", takes := .value "ACTOR", global := true, order := 1
    env := some "TL_ACTOR", help := "Actor name for audit trail" }

def globalParams : List Param :=
  [dbParam, actorParam,
   { id := "json", long := some "json", takes := .flag, global := true, order := 2
     help := "Output as JSON" },
   { id := "verbose", long := some "verbose", short := some 'v', takes := .count, global := true
     order := 3, help := "Increase logging verbosity (-v, -vv)" },
   { id := "quiet", long := some "quiet", short := some 'q', takes := .flag, global := true
     order := 4, help := "Quiet mode (no output except errors)" },
   { id := "no_color", long := some "no-color", takes := .flag, global := true, order := 5
     help := "Disable colored output" }]

def shellNames : List String := ["bash", "zsh", "fish", "power-shell", "elvish"]

def dryRunParam (order : Nat) : Param :=
  { id := "dry_run", long := some "dry-run", takes := .flag, order
    help := "Report what would change without writing" }

def tlGrammar : Grammar where
  name := "tl"
  version := "0.1.0"
  commands := [
    { path := [], params := globalParams
      about := "tracklink - Local work item tracking mirrored against a remote issue tracker" },
    { path := ["init"], about := "Create the database and a default config file"
      params := [{ id := "force", long := some "force", takes := .flag, order := 0
                   help := "Overwrite an existing database" }] },
    { path := ["version"], about := "Print version information" },
    { path := ["completions"], about := "Generate shell completions"
      params := [{ id := "shell", takes := .positional "SHELL" true false, reads := .choice
                   choices := shellNames, help := "Shell to generate completions for" }] },
    { path := ["sync"], about := "Synchronize with the remote tracker" },
    { path := ["sync", "run"], about := "Sync every item of one or all configured collections"
      params := [
        { id := "kind", long := some "kind", short := some 'k', takes := .value "KIND", order := 0
          help := "Only sync this kind (issue, milestone, project)" },
        dryRunParam 1,
        { id := "concurrency", long := some "concurrency", takes := .value "CONCURRENCY"
          reads := .count, order := 2, help := "Entities processed in parallel" },
        { id := "import_unlinked", long := some "import-unlinked", takes := .flag, order := 3
          help := "Create local entities for unlinked remote items" },
        { id := "seed_policy", long := some "seed-policy", takes := .value "SEED_POLICY", order := 4
          help := "First-sync policy (fill_empty_local, prefer_remote)" }] },
    { path := ["sync", "entity"], about := "Sync specific linked local entities"
      params := [
        { id := "local_ids", takes := .positional "LOCAL_IDS" true true, help := "Local entity IDs" },
        { id := "kind", long := some "kind", short := some 'k', takes := .value "KIND", order := 0
          default := some "issue", help := "Entity kind (issue, milestone, project)" },
        dryRunParam 1] },
    { path := ["sync", "status"], about := "Show links, cache freshness and pending conflicts" },
    { path := ["sync", "conflicts"], about := "List unresolved conflicts" },
    { path := ["link"], about := "Manage local ↔ remote links" },
    { path := ["link", "add"], about := "Link a local entity to a remote item"
      params := [
        { id := "local_id", takes := .positional "LOCAL_ID" true false, help := "Local entity ID" },
        { id := "remote_id", takes := .positional "REMOTE_ID" true false, help := "Remote item ID" }] },
    { path := ["link", "remove"], about := "Remove the link of a local entity"
      params := [{ id := "local_id", takes := .positional "LOCAL_ID" true false
                   help := "Local entity ID" }] },
    { path := ["link", "list"], about := "List all links" },
    { path := ["cache"], about := "Inspect or clear the remote snapshot cache" },
    { path := ["cache", "status"], about := "Show cache entries and freshness" },
    { path := ["cache", "clear"], about := "Invalidate one entry, or all of them"
      params := [{ id := "remote_id", takes := .positional "REMOTE_ID" false false
                   help := "Remote item ID (omit to clear everything)" }] }]

end TrackerSync.CommandLine
