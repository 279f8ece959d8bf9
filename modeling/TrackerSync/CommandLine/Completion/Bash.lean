import TrackerSync.CommandLine.Completion

/-!
The bash completion script: a walk over the words typed to find the command, then the
command's words, file names after an option that takes a value.
-/

namespace TrackerSync.CommandLine.Bash

/-- The step of the walk from a command to one of its subcommands: the parent's function
name, the subcommand's name and its function name. -/
structure Step where
  parent : String
  name : String
  target : String

/-- Whether one step sorts before (or with) another: by the parent's function name, then by
the name. -/
def Step.le (a b : Step) : Bool :=
  a.parent < b.parent || (a.parent == b.parent && !(b.name < a.name))

/-- The steps of the walk, one for each command below the top. -/
def steps (program : String) (nodes : List Node) : List Step :=
  (nodes.filterMap fun n =>
    match n.path.getLast?, n.path.dropLast with
    | some name, up => some { parent := "__subcmd__".intercalate (program :: up), name
                              target := n.functionName program }
    | none, _ => none).mergeSort Step.le

def stepCase (s : Step) : String :=
  "\n            " ++ s.parent ++ "," ++ s.name ++ ")\n                cmd=\"" ++ s.target ++
    "\"\n                ;;"

def words (n : Node) : List String :=
  let named := n.params.filter (!·.isPositional)
  named.filterMap (·.short.map fun c => "-" ++ String.singleton c) ++
    named.filterMap (·.long.map ("--" ++ ·)) ++
    n.positionals.flatMap (·.choices) ++ n.subcommandNames

/-- The cases that complete file names after an option that takes a value: its long form,
then its short form. -/
def valueCases (n : Node) : List String :=
  n.options.flatMap fun p =>
    ((p.long.map ("--" ++ ·)).toList ++ (p.short.map fun c => "-" ++ String.singleton c).toList).map
      fun name =>
        "\n                " ++ name ++
          ")\n                    COMPREPLY=($(compgen -f \"$\x7bcur\x7d\"))" ++
          "\n                    return 0\n                    ;;"

def commandCase (program : String) (n : Node) : String :=
  let offer := "COMPREPLY=( $(compgen -W \"$\x7bopts\x7d\" -- \"$\x7bcur\x7d\") )"
  "\n        " ++ n.functionName program ++ ")\n            opts=\"" ++ " ".intercalate (words n) ++
    "\"\n            if [[ $\x7bcur\x7d == -* || $\x7bCOMP_CWORD\x7d -eq " ++ toString (n.depth + 1) ++
    " ]] ; then\n                " ++ offer ++ "\n                return 0\n            fi" ++
    "\n            case \"$\x7bprev\x7d\" in" ++ String.join (valueCases n) ++
    "\n                *)\n                    COMPREPLY=()\n                    ;;\n            esac" ++
    "\n            " ++ offer ++ "\n            return 0\n            ;;"

def script (g : Grammar) : String :=
  let p := g.name
  let nodes := g.completionNodes
  let below := (nodes.filter (·.depth > 0)).mergeSort fun a b =>
    !(b.functionName p < a.functionName p)
  let ordered := nodes.filter (·.depth == 0) ++ below
  "_" ++ p ++ "() \x7b\n    local i cur prev opts cmd\n    COMPREPLY=()\n" ++
  "    if [[ \"$\x7bBASH_VERSINFO[0]\x7d\" -ge 4 ]]; then\n        cur=\"$2\"\n    else\n" ++
  "        cur=\"$\x7bCOMP_WORDS[COMP_CWORD]\x7d\"\n    fi\n    prev=\"$3\"\n    cmd=\"\"\n    opts=\"\"\n\n" ++
  "    for i in \"$\x7bCOMP_WORDS[@]:0:COMP_CWORD\x7d\"\n    do\n        case \"$\x7bcmd\x7d,$\x7bi\x7d\" in\n" ++
  "            \",$1\")\n                cmd=\"" ++ p ++ "\"\n                ;;" ++
  String.join ((steps p nodes).map stepCase) ++
  "\n            *)\n                ;;\n        esac\n    done\n\n    case \"$\x7bcmd\x7d\" in" ++
  String.join (ordered.map (commandCase p)) ++
  "\n    esac\n\x7d\n\n" ++
  "if [[ \"$\x7bBASH_VERSINFO[0]\x7d\" -eq 4 && \"$\x7bBASH_VERSINFO[1]\x7d\" -ge 4 || " ++
  "\"$\x7bBASH_VERSINFO[0]\x7d\" -gt 4 ]]; then\n" ++
  "    complete -F _" ++ p ++ " -o nosort -o bashdefault -o default " ++ p ++ "\nelse\n" ++
  "    complete -F _" ++ p ++ " -o bashdefault -o default " ++ p ++ "\nfi\n"

end TrackerSync.CommandLine.Bash
