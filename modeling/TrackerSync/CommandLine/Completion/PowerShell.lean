import TrackerSync.CommandLine.Completion

/-!
The PowerShell completion script: a switch on the command's path to its candidates, filtered by
the word typed and sorted by their text.
-/

namespace TrackerSync.CommandLine.PowerShell

def quoted (s : String) : String := "'" ++ s.replace "'" "''" ++ "'"

/-- A candidate: its completion text, its list text, its type and its tooltip. -/
def result (text listed kind tip : String) : String :=
  "\n            [CompletionResult]::new(" ++ quoted text ++ ", " ++ quoted listed ++
    ", [CompletionResultType]::" ++ kind ++ ", " ++ quoted tip ++ ")"

/-- The candidates of an argument: its short form, then its long form. An upper-case short form
is listed with a space after it, so that the shell tells it from the lower-case one. -/
def argumentResults (p : Param) : List String :=
  (p.short.map fun c =>
      let s := "-" ++ String.singleton c
      [result s (s ++ if c.isUpper then " " else "") "ParameterName" p.help]).getD [] ++
  (p.long.map fun l => [result ("--" ++ l) ("--" ++ l) "ParameterName" p.help]).getD []

def branch (program : String) (n : Node) : String :=
  "\n        " ++ quoted (";".intercalate (program :: n.path)) ++ " \x7b" ++
    String.join ((n.options ++ n.switches).flatMap argumentResults) ++
    String.join (n.subcommands.map fun (name, about) => result name name "ParameterValue" about) ++
    "\n            break\n        \x7d"

def script (g : Grammar) : String :=
  let p := g.name
  "\nusing namespace System.Management.Automation\n" ++
  "using namespace System.Management.Automation.Language\n\n" ++
  "Register-ArgumentCompleter -Native -CommandName " ++ quoted p ++ " -ScriptBlock \x7b\n" ++
  "    param($wordToComplete, $commandAst, $cursorPosition)\n\n" ++
  "    $commandElements = $commandAst.CommandElements\n    $command = @(\n        " ++ quoted p ++ "\n" ++
  "        for ($i = 1; $i -lt $commandElements.Count; $i++) \x7b\n" ++
  "            $element = $commandElements[$i]\n" ++
  "            if ($element -isnot [StringConstantExpressionAst] -or\n" ++
  "                $element.StringConstantType -ne [StringConstantType]::BareWord -or\n" ++
  "                $element.Value.StartsWith('-') -or\n" ++
  "                $element.Value -eq $wordToComplete) \x7b\n" ++
  "                break\n        \x7d\n        $element.Value\n    \x7d) -join ';'\n\n" ++
  "    $completions = @(switch ($command) \x7b" ++
  String.join (g.completionNodes.map (branch p)) ++
  "\n    \x7d)\n\n" ++
  "    $completions.Where\x7b $_.CompletionText -like \"$wordToComplete*\" \x7d |\n" ++
  "        Sort-Object -Property ListItemText\n\x7d\n"

end TrackerSync.CommandLine.PowerShell
