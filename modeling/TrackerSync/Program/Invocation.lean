import TrackerSync.CommandLine.Reading

/-!
A command line read against the grammar of `tl`: the action with its arguments, and the global
arguments.
-/

namespace TrackerSync

/-- A shell completion scripts are written for. -/
inductive Shell where
  | bash
  | zsh
  | fish
  | powerShell
  | elvish
  deriving BEq, Repr, Inhabited

def Shell.ofName? : String → Option Shell
  | "bash" => some .bash
  | "zsh" => some .zsh
  | "fish" => some .fish
  | "power-shell" => some .powerShell
  | "elvish" => some .elvish
  | _ => none

/-- An action of the program with its arguments. -/
inductive Action where
  | init (force : Bool)
  | version
  | completions (shell : Shell)
  | syncRun (kind : Option String) (dryRun : Bool) (concurrency : Option Nat)
      (importUnlinked : Bool) (seedPolicy : Option String)
  | syncEntity (localIds : List String) (kind : String) (dryRun : Bool)
  | syncStatus
  | syncConflicts
  | linkAdd (localId remoteId : String)
  | linkRemove (localId : String)
  | linkList
  | cacheStatus
  | cacheClear (remoteId : Option String)
  deriving Inhabited

/-- An action with the global arguments. -/
structure Invocation where
  action : Action
  db : Option String
  actor : Option String
  json : Bool
  verbose : Nat
  quiet : Bool
  noColor : Bool
  deriving Inhabited

namespace Invocation

open CommandLine in
/-- The invocation a read command line asks for; none for a path that names no action. -/
def ofParsed (r : Parsed) : Option Invocation := do
  let action ← match r.path with
    | ["init"] => some (.init (r.flag "force"))
    | ["version"] => some .version
    | ["completions"] => (r.value? "shell").bind Shell.ofName? |>.map .completions
    | ["sync", "run"] =>
      some (.syncRun (r.value? "kind") (r.flag "dry_run") ((r.value? "concurrency").map countValue)
        (r.flag "import_unlinked") (r.value? "seed_policy"))
    | ["sync", "entity"] =>
      some (.syncEntity (r.values "local_ids") ((r.value? "kind").getD "issue") (r.flag "dry_run"))
    | ["sync", "status"] => some .syncStatus
    | ["sync", "conflicts"] => some .syncConflicts
    | ["link", "add"] => some (.linkAdd ((r.value? "local_id").getD "") ((r.value? "remote_id").getD ""))
    | ["link", "remove"] => some (.linkRemove ((r.value? "local_id").getD ""))
    | ["link", "list"] => some .linkList
    | ["cache", "status"] => some .cacheStatus
    | ["cache", "clear"] => some (.cacheClear (r.value? "remote_id"))
    | _ => none
  return { action, db := r.value? "db", actor := r.value? "actor", json := r.flag "json"
           verbose := r.count "verbose", quiet := r.flag "quiet", noColor := r.flag "no_color" }

end Invocation

end TrackerSync
