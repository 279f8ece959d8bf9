import TrackerSync.CommandLine.Completion

/-!
The zsh completion script: nested `_arguments` specs per command, then one function per command
listing its subcommands.
-/

namespace TrackerSync.CommandLine.Zsh

/-- A help text as it stands inside a quoted spec: a backslash, a quote, brackets, a colon, a
dollar and a backquote are escaped, and a line break becomes a space. -/
def escape (s : String) : String :=
  String.join (s.toList.map fun c =>
    match c with
    | '\\' => "\\\\"
    | '\'' => "'\\''"
    | '[' => "\\["
    | ']' => "\\]"
    | ':' => "\\:"
    | '$' => "\\$"
    | '\x60' => "\\\x60"
    | '\n' => " "
    | c => String.singleton c)

def valueName (p : Param) : String :=
  match p.takes with
  | .value n => n
  | _ => " "

/-- The specs of an option that takes a value: its short form, then its long form. -/
def optionSpecs (p : Param) : List String :=
  let value := ":" ++ valueName p ++ ":" ++ if p.reads == .path then "_files" else "_default"
  let help := escape p.help
  (p.short.map fun c => "'-" ++ String.singleton c ++ "+[" ++ help ++ "]" ++ value ++ "' \\").toList ++
  (p.long.map fun l => "'--" ++ l ++ "=[" ++ help ++ "]" ++ value ++ "' \\").toList

/-- The specs of a switch: its short form, then its long form, repeatable when counted. -/
def switchSpecs (p : Param) : List String :=
  let many := if p.takes == .count then "*" else ""
  let help := escape p.help
  (p.short.map fun c => "'" ++ many ++ "-" ++ String.singleton c ++ "[" ++ help ++ "]' \\").toList ++
  (p.long.map fun l => "'" ++ many ++ "--" ++ l ++ "[" ++ help ++ "]' \\").toList

/-- The spec of a positional argument: `*:` before one that takes every remaining value, `:`
before an optional one. -/
def positionalSpec (p : Param) : String :=
  let (required, many) := match p.takes with
    | .positional _ r m => (r, m)
    | _ => (true, false)
  let lead := if many then "*:" else if required then "" else ":"
  let completion := if p.choices.isEmpty then "_default" else "(" ++ " ".intercalate p.choices ++ ")"
  "'" ++ lead ++ ":" ++ p.id ++ " -- " ++ escape p.help ++ ":" ++ completion ++ "' \\"

def arguments (program : String) (n : Node) : String :=
  "\n".intercalate
    (["_arguments \"$\x7b_arguments_options[@]\x7d\" : \\"] ++ n.options.flatMap optionSpecs ++
      n.switches.flatMap switchSpecs ++ n.positionals.map positionalSpec ++
      (if n.subcommands.isEmpty then []
       else ["\":: :_" ++ n.functionName program ++ "_commands\" \\",
             "\"*::: :->" ++ n.name program ++ "\" \\"]) ++
      ["&& ret=0"])

/-- The switch on the subcommand typed below a command, with each subcommand's description
nested inside; empty for a command without subcommands. -/
def nested (program : String) (nodes : List Node) : Nat → Node → String
  | 0, _ => ""
  | fuel + 1, n =>
    if n.subcommands.isEmpty then ""
    else
      let kids := n.subcommandNames.filterMap fun k => nodes.find? (·.path == n.path ++ [k])
      let branches := kids.map fun k =>
        let inner := nested program nodes fuel k
        "\n".intercalate (["(" ++ k.name program ++ ")", arguments program k] ++
          (if inner.isEmpty then [] else [inner]) ++ [";;"])
      "\n    case $state in\n    (" ++ n.name program ++ ")\n" ++
        "        words=($line[1] \"$\x7bwords[@]\x7d\")\n        (( CURRENT += 1 ))\n" ++
        "        curcontext=\"$\x7bcurcontext%:*:*\x7d:" ++ "-".intercalate (program :: n.path) ++
        "-command-$line[1]:\"\n        case $line[1] in\n            " ++ "\n".intercalate branches ++
        "\n        esac\n    ;;\nesac"

def commandsFunction (program : String) (n : Node) : String :=
  let fn := "_" ++ n.functionName program ++ "_commands"
  let entries := n.subcommands.map fun (name, about) => "'" ++ name ++ ":" ++ escape about ++ "' \\"
  let body := if entries.isEmpty then "" else "\n".intercalate ([""] ++ entries ++ ["    "])
  "(( $+functions[" ++ fn ++ "] )) ||\n" ++ fn ++ "() \x7b\n    local commands; commands=(" ++ body ++
    ")\n    _describe -t commands '" ++ " ".intercalate (program :: n.path) ++
    " commands' commands \"$@\"\n\x7d"

def script (g : Grammar) : String :=
  let p := g.name
  let nodes := g.completionNodes
  let below := (nodes.filter (·.depth > 0)).mergeSort fun a b =>
    !(b.functionName p < a.functionName p)
  let top := (nodes.find? (·.depth == 0)).getD { path := [], params := [], subcommands := [] }
  "#compdef " ++ p ++ "\n\nautoload -U is-at-least\n\n_" ++ p ++ "() \x7b\n" ++
  "    typeset -A opt_args\n    typeset -a _arguments_options\n    local ret=1\n\n" ++
  "    if is-at-least 5.2; then\n        _arguments_options=(-s -S -C)\n    else\n" ++
  "        _arguments_options=(-s -C)\n    fi\n\n" ++
  "    local context curcontext=\"$curcontext\" state line\n    " ++
  arguments p top ++ nested p nodes (nodes.length + 1) top ++ "\n\x7d\n\n" ++
  "\n".intercalate ((top :: below).map (commandsFunction p)) ++
  "\n\nif [ \"$funcstack[1]\" = \"_" ++ p ++ "\" ]; then\n    _" ++ p ++ " \"$@\"\nelse\n" ++
  "    compdef _" ++ p ++ " " ++ p ++ "\nfi\n"

end TrackerSync.CommandLine.Zsh
