import TrackerSync.CommandLine.Completion

/-!
The elvish completion script: candidates of each command in a map keyed by its path.
-/

namespace TrackerSync.CommandLine.Elvish

def quoted (s : String) : String := "'" ++ s.replace "'" "''" ++ "'"

/-- The candidate lines of an argument: its short form, then its long form. -/
def argumentLines (p : Param) : List String :=
  let help := quoted p.help
  (p.short.map fun c => ["cand -" ++ String.singleton c ++ " " ++ help]).getD [] ++
  (p.long.map fun l => ["cand --" ++ l ++ " " ++ help]).getD []

def entry (program : String) (n : Node) : String :=
  let key := ";".intercalate (program :: n.path)
  let cands := (n.options ++ n.switches).flatMap argumentLines ++
    n.subcommands.map fun (name, about) => "cand " ++ name ++ " " ++ quoted about
  "\n        &" ++ quoted key ++ "= \x7b" ++
    String.join (cands.map ("\n            " ++ ·)) ++ "\n        \x7d"

def script (g : Grammar) : String :=
  let name := g.name
  "\nuse builtin;\nuse str;\n\nset edit:completion:arg-completer[" ++ name ++ "] = \x7b|@words|\n" ++
  "    fn spaces \x7b|n|\n        builtin:repeat $n ' ' | str:join ''\n    \x7d\n" ++
  "    fn cand \x7b|text desc|\n" ++
  "        edit:complex-candidate $text &display=$text' '(spaces (- 14 (wcswidth $text)))$desc\n" ++
  "    \x7d\n    var command = " ++ quoted name ++ "\n    for word $words[1..-1] \x7b\n" ++
  "        if (str:has-prefix $word '-') \x7b\n            break\n        \x7d\n" ++
  "        set command = $command';'$word\n    \x7d\n    var completions = [" ++
  String.join (g.completionNodes.map (entry name)) ++
  "\n    ]\n    $completions[$command]\n\x7d\n"

end TrackerSync.CommandLine.Elvish
