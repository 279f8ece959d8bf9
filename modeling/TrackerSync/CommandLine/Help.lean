import TrackerSync.CommandLine.Grammar

/-!
Help pages and usage lines: purpose, usage, then the commands, positional arguments and
options, each description wrapped at 100 columns.
-/

namespace TrackerSync.CommandLine

def helpWidth : Nat := 100

def trimSpacesEnd (cs : List Char) : List Char := (cs.reverse.dropWhile (· == ' ')).reverse

/-- The words of a line: the spaces it starts with, then each run of other characters with
the spaces after it. -/
def wordsOf (line : List Char) : List (List Char) :=
  let (ws, cur, _) := line.foldl (fun (acc : List (List Char) × List Char × Bool) c =>
    let (ws, cur, afterSpace) := acc
    if c != ' ' && afterSpace && !cur.isEmpty then (ws ++ [cur], [c], false)
    else (ws, cur ++ [c], c == ' ')) ([], [], false)
  if cur.isEmpty then ws else ws ++ [cur]

/-- Greedy wrapping of one line's words at a width: a word (not the first) that would pass
the width starts a new line, the word before it loses its trailing spaces, and every new line
starts with the spaces the line started with. -/
def wrapWords (width : Nat) (ws : List (List Char)) : List (List Char) :=
  let carry : List Char := match ws.head? with
    | some w => if w.all (· == ' ') then w else []
    | none => []
  let step (acc : List (List Char) × Nat × Bool) (w : List Char) :=
    let (out, used, first) := acc
    let t := trimSpacesEnd w
    let delta := w.length - t.length
    if !first && width < used + t.length then
      let out := match out.getLast? with
        | some last => out.dropLast ++ [trimSpacesEnd last]
        | none => out
      (out ++ [['\n'], carry, w], carry.length + t.length + delta, false)
    else (out ++ [w], used + t.length + delta, false)
  (ws.foldl step ([], 0, true)).1

def wrapText (width indent : Nat) (text : String) : String :=
  let lines := (text.splitOn "\n").map fun l => (wrapWords width (wordsOf l.toList)).flatten
  let body := String.ofList (lines.intersperse ['\n']).flatten
  body.replace "\n" ("\n" ++ String.ofList (List.replicate indent ' '))

def pad (used width : Nat) : String := String.ofList (List.replicate (width - used) ' ')

namespace Param

/-- How an argument is written in a usage line: options with their value, a counted switch
with `...`, positionals as `<NAME>` (or `[NAME]` when optional and `required` is not forced). -/
def usageText (p : Param) (forceRequired : Bool) : String :=
  match p.takes with
  | .positional n r m =>
    (if r || forceRequired then "<" ++ n ++ ">" else "[" ++ n ++ "]") ++ if m then "..." else ""
  | _ => p.display

/-- The notes after an argument's description: its environment variable with the variable's
value, its default and its possible values. -/
def notes (p : Param) (env : String → Option String) : List String :=
  let envNote := match p.env with
    | some name => ["[env: " ++ name ++ "=" ++ (env name).getD "" ++ "]"]
    | none => []
  let defaultNote := match p.default with
    | some d => ["[default: " ++ d ++ "]"]
    | none => []
  let choiceNote := if p.choices.isEmpty then []
    else ["[possible values: " ++ ", ".intercalate p.choices ++ "]"]
  envNote ++ defaultNote ++ choiceNote

def described (p : Param) (env : String → Option String) : String :=
  " ".intercalate ((if p.help.isEmpty then [] else [p.help]) ++ p.notes env)

/-- The name column of an option: `-s, --long` or `    --long`, and the value. -/
def optionColumn (p : Param) : String :=
  let short := match p.short with
    | some c => "-" ++ String.singleton c
    | none => if p.long.isSome then "    " else ""
  let long := match p.long with
    | some l => (if p.short.isSome then ", " else "") ++ "--" ++ l
    | none => ""
  let suffix := match p.takes with
    | .value _ => " " ++ p.valueText
    | .count => "..."
    | _ => ""
  short ++ long ++ suffix

/-- The width an option takes in the name column: as messages name it, and four more for the
short name's place. -/
def optionWidth (p : Param) : Nat := p.display.length + 4

/-- The key options are listed by within one place: the short name in lower case (upper case
after lower), else the long name. -/
def listKey (p : Param) : String :=
  match p.short, p.long with
  | some c, _ => String.singleton c.toLower ++ if c.isLower then "0" else "1"
  | none, some l => l
  | none, none => "\x7b" ++ p.id

end Param

def helpTopicsParam : Param :=
  { id := "subcommand", takes := .positional "COMMAND" false true
    help := "Print help for the subcommand(s)" }

namespace Grammar

def isHelpPath (g : Grammar) (path : List String) : Bool :=
  path.getLast? == some "help" && (g.find? path).isNone

/-- The arguments a command accepts; the generated `help` subcommand takes only the names of
commands. -/
def accepts (g : Grammar) (path : List String) : List Param :=
  if g.isHelpPath path then [helpTopicsParam] else g.params path

def positionals (g : Grammar) (path : List String) : List Param :=
  (g.accepts path).filter (·.isPositional)

def listedOptions (g : Grammar) (path : List String) : List Param :=
  ((g.accepts path).filter fun p => !p.isPositional).mergeSort fun a b =>
    a.order < b.order || (a.order == b.order && decide (a.listKey ≤ b.listKey))

def needsSubcommand (g : Grammar) (path : List String) : Bool := !(g.children path).isEmpty

def helpUsage (g : Grammar) (path : List String) : String :=
  let opts := (g.accepts path).any fun p =>
    !p.isPositional && p.long != some "help" && p.long != some "version"
  let parts := (if opts then ["[OPTIONS]"] else []) ++
    (g.positionals path).map (·.usageText false) ++
    (if g.needsSubcommand path then ["<COMMAND>"] else [])
  " ".intercalate (g.callName path :: parts)

/-- The usage line of an error: the options among `used` (in order) and the positional
arguments that are required or used (by position). -/
def usageWith (g : Grammar) (path : List String) (used : List String) : String :=
  if used.isEmpty then g.helpUsage path
  else
    let ps := g.accepts path
    let opts := (used.eraseDups.filterMap fun id => ps.find? (·.id == id)).filter
      fun p => !p.isPositional
    let pos := (g.positionals path).filter fun p => p.isRequired || used.contains p.id
    let parts := opts.map (·.usageText true) ++ pos.map (·.usageText true) ++
      (if g.needsSubcommand path then ["<COMMAND>"] else [])
    " ".intercalate (g.callName path :: parts)

def commandLines (g : Grammar) (path : List String) : List String :=
  let names := g.children path
  let longest := names.foldl (fun m n => max m n.length) 2
  names.map fun n =>
    "  " ++ n ++ pad n.length (longest + 2) ++
      wrapText (helpWidth - (longest + 4)) (longest + 4) (g.about (path ++ [n]))

def argumentLines (g : Grammar) (path : List String) (env : String → Option String) :
    List String :=
  let ps := g.positionals path
  let longest := ps.foldl (fun m p => max m (p.usageText false).length) 2
  ps.map fun p =>
    "  " ++ p.usageText false ++ pad (p.usageText false).length (longest + 2) ++
      wrapText (helpWidth - (longest + 4)) (longest + 4) (p.described env)

def optionLines (g : Grammar) (path : List String) (env : String → Option String) :
    List String :=
  let ps := g.listedOptions path
  let longest := ps.foldl (fun m p => max m p.optionWidth) 2
  ps.map fun p =>
    "  " ++ p.optionColumn ++ pad p.optionWidth (longest + 2) ++
      wrapText (helpWidth - (longest + 4)) (longest + 4) (p.described env)

def helpPage (g : Grammar) (path : List String) (env : String → Option String) : String :=
  let block (title : String) (lines : List String) : List String :=
    if lines.isEmpty then [] else [title ++ ":\n" ++ "\n".intercalate lines]
  let sections := block "Commands" (g.commandLines path) ++
    block "Arguments" (g.argumentLines path env) ++ block "Options" (g.optionLines path env)
  wrapText helpWidth 0 (g.about path) ++ "\n\nUsage: " ++ g.helpUsage path ++ "\n\n" ++
    "\n\n".intercalate sections ++ "\n"

end Grammar

end TrackerSync.CommandLine
