import TrackerSync.CommandLine.Completion

/-!
The fish completion script: one `complete` line per candidate, under a condition naming the
subcommands typed; commands more than two levels down get none.
-/

namespace TrackerSync.CommandLine.Fish

/-- A text inside single quotes, where a backslash and a quote are escaped with a backslash. -/
def quoted (s : String) : String := "'" ++ (s.replace "\\" "\\\\").replace "'" "\\'" ++ "'"

/-- The `argparse` spec of an argument of the top command: its short form and long form joined
by `/`, with `=` after one that takes a value. -/
def optionSpec (p : Param) : String :=
  let names := (p.short.map String.singleton).toList ++ p.long.toList
  "/".intercalate names ++ if p.takesValue then "=" else ""

/-- Where the lines of a command apply, or none for a command too far down. -/
def condition (program : String) (n : Node) : Option String :=
  let using_ := "__fish_" ++ program ++ "_using_subcommand "
  match n.path with
  | [] => some ("__fish_" ++ program ++ "_needs_command")
  | [a] =>
    some (using_ ++ a ++
      if n.subcommands.isEmpty then ""
      else "; and not __fish_seen_subcommand_from " ++ " ".intercalate n.subcommandNames)
  | [a, b] => some (using_ ++ a ++ "; and __fish_seen_subcommand_from " ++ b)
  | _ => none

/-- What follows the description of an argument that takes a value: a path completes to
files. -/
def valueHint (p : Param) : String :=
  if !p.takesValue then ""
  else if p.reads == .path then " -r -F"
  else " -r"

def argumentLine (program cond : String) (p : Param) : String :=
  "complete -c " ++ program ++ " -n \"" ++ cond ++ "\"" ++
    ((p.short.map fun c => " -s " ++ String.singleton c).getD "") ++
    ((p.long.map fun l => " -l " ++ l).getD "") ++
    " -d " ++ quoted p.help ++ valueHint p

/-- The lines of one command: its options that take a value, its switches, its subcommands. -/
def commandLines (program : String) (n : Node) : List String :=
  match condition program n with
  | none => []
  | some cond =>
    let files := if n.positionals.isEmpty then " -f" else ""
    (n.options ++ n.switches).map (argumentLine program cond) ++
      n.subcommands.map fun (name, about) =>
        "complete -c " ++ program ++ " -n \"" ++ cond ++ "\"" ++ files ++ " -a \"" ++ name ++
          "\" -d " ++ quoted about

def script (g : Grammar) : String :=
  let p := g.name
  let specs := (g.params []).filter (!·.isPositional) |>.map optionSpec
  "# Print an optspec for argparse to handle cmd's options that are independent of any subcommand.\n" ++
  "function __fish_" ++ p ++ "_global_optspecs\n    string join \\n " ++ " ".intercalate specs ++
  "\nend\n\nfunction __fish_" ++ p ++ "_needs_command\n" ++
  "    # Figure out if the current invocation already has a command.\n" ++
  "    set -l cmd (commandline -opc)\n    set -e cmd[1]\n" ++
  "    argparse -s (__fish_" ++ p ++ "_global_optspecs) -- $cmd 2>/dev/null\n    or return\n" ++
  "    if set -q argv[1]\n" ++
  "        # Also print the command, so this can be used to figure out what it is.\n" ++
  "        echo $argv[1]\n        return 1\n    end\n    return 0\nend\n\n" ++
  "function __fish_" ++ p ++ "_using_subcommand\n    set -l cmd (__fish_" ++ p ++ "_needs_command)\n" ++
  "    test -z \"$cmd\"\n    and return 1\n    contains -- $cmd[1] $argv\nend\n\n" ++
  String.join ((g.completionNodes.flatMap (commandLines p)).map (· ++ "\n"))

end TrackerSync.CommandLine.Fish
