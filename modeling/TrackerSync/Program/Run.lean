import TrackerSync.Program.Commands
import TrackerSync.CommandLine.Completion.Bash
import TrackerSync.CommandLine.Completion.Zsh
import TrackerSync.CommandLine.Completion.Fish
import TrackerSync.CommandLine.Completion.PowerShell
import TrackerSync.CommandLine.Completion.Elvish

/-!
One run of `tl`: the command line read, the action performed, and its output and errors written.
-/

namespace TrackerSync

def errorReport (e : Error) (json quiet : Bool) : String :=
  if json then jsonLine e.structured
  else if quiet then ""
  else
    "Error: " ++ e.message ++ (match e.hint with
      | some h => "\n  Hint: " ++ h
      | none => "") ++ "\n"

def Shell.script : Shell → String
  | .bash => CommandLine.Bash.script CommandLine.tlGrammar
  | .zsh => CommandLine.Zsh.script CommandLine.tlGrammar
  | .fish => CommandLine.Fish.script CommandLine.tlGrammar
  | .powerShell => CommandLine.PowerShell.script CommandLine.tlGrammar
  | .elvish => CommandLine.Elvish.script CommandLine.tlGrammar

def perform (ctx : Context) (inv : Invocation) (json : Bool) : HostM String :=
  match inv.action with
  | .init force => Commands.init ctx inv force json
  | .version => Commands.version json
  | .completions shell => pure shell.script
  | .syncRun kind dryRun concurrency importUnlinked seedPolicy =>
    Commands.syncRun ctx inv kind dryRun concurrency importUnlinked seedPolicy json
  | .syncEntity localIds kind dryRun => Commands.syncEntity ctx inv localIds kind dryRun json
  | .syncStatus => Commands.syncStatus ctx inv json
  | .syncConflicts => Commands.syncConflicts ctx inv json
  | .linkAdd l r => Commands.linkAdd ctx inv l r json
  | .linkRemove l => Commands.linkRemove ctx inv l json
  | .linkList => Commands.linkList ctx inv json
  | .cacheStatus => Commands.cacheStatus ctx inv json
  | .cacheClear r => Commands.cacheClear ctx inv r json

/-- Run `tl` with its arguments on a host: the host afterwards and how the run ended. -/
def Host.run (h : Host) (ctx : Context) (args : List String) : Host × Ending :=
  match CommandLine.tlGrammar.read ctx.env args with
  | .error (.shown text) => (h, { status := some 0, stdout := text })
  | .error (.refused text) => (h, { status := some 2, stderr := text })
  | .ok parsed =>
    match Invocation.ofParsed parsed with
    | none => (h, { status := some 2 })
    | some inv =>
      let json := inv.json || !ctx.terminal
      let (r, h) := Id.run ((perform ctx inv json).run.run h)
      match r with
      | .ok out => (h, { status := some 0, stdout := out })
      | .error .signalled => (h, { status := none })
      | .error (.error e) => (h, { status := some e.exitCode, stderr := errorReport e json inv.quiet })

end TrackerSync
