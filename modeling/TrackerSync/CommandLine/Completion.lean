import TrackerSync.CommandLine.Grammar

/-!
The command tree that completion scripts describe: the declared commands and each one's
generated `help` command, top down in declaration order.
-/

namespace TrackerSync.CommandLine

/-- A command as a completion script sees it. -/
structure Node where
  /-- The names from the top command down to this one. -/
  path : List String
  /-- The arguments it accepts: none for `help` and what stands below it. -/
  params : List Param
  /-- Its subcommands with what each is for. -/
  subcommands : List (String × String)
  deriving Inhabited

namespace Node

def depth (n : Node) : Nat := n.path.length

/-- Its name: the last name of its path, the program's name at the top. -/
def name (n : Node) (program : String) : String := n.path.getLastD program

/-- The options that take a value, in the order they are declared. -/
def options (n : Node) : List Param := n.params.filter (·.takesValue)

/-- The switches, help and version included, in the order they are declared. -/
def switches (n : Node) : List Param :=
  n.params.filter fun p => !p.takesValue && !p.isPositional

def positionals (n : Node) : List Param := n.params.filter (·.isPositional)

def subcommandNames (n : Node) : List String := n.subcommands.map (·.1)

/-- The name a script gives the command's function: the program's name, then each name of the
path, joined by `__subcmd__`. -/
def functionName (n : Node) (program : String) : String :=
  "__subcmd__".intercalate (program :: n.path)

end Node

namespace Grammar

/-- The subcommands of a declared command as a `help` command below it lists them. -/
def describedChildren (g : Grammar) (path : List String) : List (String × String) :=
  (g.declaredChildren path).map fun n => (n, g.about (path ++ [n]))

/-- The copy of the declared command `real` shown at `shown` below a `help` command, and the
copies of the commands below it. -/
def helpCopies (g : Grammar) : Nat → List String → List String → List Node
  | 0, _, _ => []
  | fuel + 1, real, shown =>
    { path := shown, params := [], subcommands := g.describedChildren real } ::
      (g.declaredChildren real).flatMap fun n => g.helpCopies fuel (real ++ [n]) (shown ++ [n])

/-- The command at a declared path, then everything below it: its declared subcommands and, when
it has any, its `help` command with the copies below that. -/
def nodesFrom (g : Grammar) : Nat → List String → List Node
  | 0, _ => []
  | fuel + 1, path =>
    let kids := g.declaredChildren path
    let listed := (g.children path).map fun n => (n, g.about (path ++ [n]))
    let own : Node := { path, params := g.params path, subcommands := listed }
    let help :=
      if kids.isEmpty then []
      else
        { path := path ++ ["help"], params := [], subcommands := listed } ::
          (kids.flatMap fun n => g.helpCopies fuel (path ++ [n]) (path ++ ["help", n])) ++
          [{ path := path ++ ["help", "help"], params := [], subcommands := [] }]
    own :: (kids.flatMap fun n => g.nodesFrom fuel (path ++ [n])) ++ help

/-- Every command a completion script describes, each before the ones below it. No path is
longer than the number of declared commands, so that many steps reach every command. -/
def completionNodes (g : Grammar) : List Node := g.nodesFrom (g.commands.length + 1) []

def completionNode? (g : Grammar) (path : List String) : Option Node :=
  g.completionNodes.find? (·.path == path)

end Grammar

end TrackerSync.CommandLine
