import TrackerSync.CommandLine.Help
import TrackerSync.Text.Similarity

/-!
Reading a command line left to right, one command at a time; values are checked when their
argument is complete, and an error names the first problem met.
-/

namespace TrackerSync.CommandLine

/-- Where an argument's value came from. -/
inductive Source where
  | environment
  | commandLine
  deriving BEq, Inhabited

/-- What was given for one argument of one command; a counted switch has one value per time
it was given. -/
structure Given where
  param : Param
  values : List String
  source : Source
  deriving Inhabited

/-- How reading stopped short of running a command. -/
inductive Stop where
  /-- Help or the version was asked for: the text goes to standard output, status 0. -/
  | shown (text : String)
  /-- The arguments are wrong, or a command was left without a subcommand: the text goes to
  standard error, status 2. -/
  | refused (text : String)
  deriving Inhabited

/-- The state of reading one command's arguments. -/
structure Cursor where
  path : List String
  /-- Arguments given so far, in the order first given. -/
  given : List Given := []
  /-- The argument whose values are being collected, and those values. -/
  pending : Option (Param × List String) := none
  /-- The pending option still needs its value. -/
  awaiting : Bool := false
  /-- The position of the next positional value. -/
  position : Nat := 0
  /-- After `--`: every argument is a value. -/
  trailing : Bool := false
  /-- After a value of a repeated positional: names are not read as subcommands. -/
  inRepeated : Bool := false
  deriving Inhabited

/-- An error text: the problem, tips, the usage line and the pointer to `--help`. -/
def errorText (problem : String) (tips : List String) (usage : Option String) : String :=
  let tipText := if tips.isEmpty then "" else "\n" ++ String.join (tips.map ("\n  tip: " ++ ·))
  let usageText := match usage with
    | some u => "\n\nUsage: " ++ u
    | none => ""
  "error: " ++ problem ++ tipText ++ usageText ++ "\n\nFor more information, try '--help'.\n"

def similarTip (what : String) (names : List String) : String :=
  match names with
  | [n] => "a similar " ++ what ++ " exists: '" ++ n ++ "'"
  | _ => "some similar " ++ what ++ "s exist: " ++ ", ".intercalate (names.map fun n => "'" ++ n ++ "'")

def possibleValues (title : String) (values : List String) : String :=
  if values.isEmpty then "" else "\n  [" ++ title ++ ": " ++ ", ".intercalate values ++ "]"

/-- Why a text is not an unsigned machine-word number, if it is not: digits with an optional
leading `+`, read left to right, the first bad digit or overflow deciding. -/
def countProblem (v : String) : Option String :=
  let cs := v.toList
  if cs.isEmpty then some "cannot parse integer from empty string"
  else
    let digits := match cs with
      | ['+'] | ['-'] => none
      | '+' :: rest => some rest
      | _ => some cs
    match digits with
    | none => some "invalid digit found in string"
    | some ds =>
      let step (acc : Except String Nat) (c : Char) : Except String Nat := do
        let n ← acc
        if !c.isDigit then throw "invalid digit found in string"
        let m := n * 10 + (c.toNat - '0'.toNat)
        if m ≥ Nat.pow 2 64 then throw "number too large to fit in target type"
        return m
      match ds.foldl step (.ok 0) with
      | .error e => some e
      | .ok _ => none

def countValue (v : String) : Nat := (v.toList.filter Char.isDigit).foldl (fun n c => n * 10 + (c.toNat - '0'.toNat)) 0

def Cursor.has (c : Cursor) (id : String) : Bool := c.given.any (·.param.id == id)

/-- The ids of the arguments given at the cursor's command, in order. -/
def Cursor.givenIds (c : Cursor) : List String := c.given.map (·.param.id)

namespace Reader

variable (g : Grammar) (env : String → Option String)

def checkValue (p : Param) (v : String) : Except Stop Unit :=
  match p.reads with
  | .text => .ok ()
  | .path =>
    if v.isEmpty then
      .error (.refused (errorText ("a value is required for '" ++ p.display ++ "' but none was supplied") [] none))
    else .ok ()
  | .count =>
    match countProblem v with
    | some why =>
      .error (.refused (errorText ("invalid value '" ++ v ++ "' for '" ++ p.display ++ "': " ++ why) [] none))
    | none => .ok ()
  | .choice =>
    if p.choices.contains v then .ok ()
    else
      let problem := if v.isEmpty then "a value is required for '" ++ p.display ++ "' but none was supplied"
        else "invalid value '" ++ v ++ "' for '" ++ p.display ++ "'"
      let tips := match (Text.similarTo v p.choices).getLast? with
        | some s => [similarTip "value" [s]]
        | none => []
      .error (.refused (errorText (problem ++ possibleValues "possible values" p.choices) tips none))

def givenTwice (c : Cursor) (p : Param) : Stop :=
  .refused (errorText ("the argument '" ++ p.display ++ "' cannot be used multiple times") []
    (some (g.helpUsage c.path)))

/-- Record an argument with its values: switches and options may be given once, counted
switches and repeated positionals add up, help and version stop reading. -/
def record (c : Cursor) (p : Param) (vals : List String) (src : Source) : Except Stop Cursor := do
  if src == .commandLine && vals.isEmpty && (p.takesValue || p.isPositional) then
    throw (.refused (errorText ("a value is required for '" ++ p.display ++ "' but none was supplied" ++
      possibleValues "possible values" p.choices) [] none))
  match p.takes with
  | .help => throw (.shown (g.helpPage c.path env))
  | .version => throw (.shown (g.name ++ " " ++ g.version ++ "\n"))
  | .flag =>
    if c.has p.id then throw (givenTwice g c p)
    return { c with given := c.given ++ [{ param := p, values := ["true"], source := src }] }
  | .count =>
    let before := ((c.given.find? (·.param.id == p.id)).map (·.values)).getD []
    return { c with given := c.given.filter (·.param.id != p.id) ++
      [{ param := p, values := before ++ ["1"], source := src }] }
  | .value _ =>
    if c.has p.id then throw (givenTwice g c p)
    vals.forM (checkValue p)
    return { c with given := c.given ++ [{ param := p, values := vals, source := src }] }
  | .positional _ _ many =>
    if c.has p.id && !many then throw (givenTwice g c p)
    vals.forM (checkValue p)
    if c.has p.id then
      return { c with given := c.given.map fun x =>
        if x.param.id == p.id then { x with values := x.values ++ vals } else x }
    return { c with given := c.given ++ [{ param := p, values := vals, source := src }] }

def resolve (c : Cursor) : Except Stop Cursor :=
  match c.pending with
  | none => .ok c
  | some (p, vals) => record g env { c with pending := none, awaiting := false } p vals .commandLine

/-- Complete the pending argument where an error is on its way: a failure is dropped. -/
def settle (c : Cursor) : Cursor :=
  match resolve g env c with
  | .ok c => c
  | .error _ => { c with pending := none, awaiting := false }

def take (c : Cursor) (p : Param) (vals : List String) : Except Stop Cursor := do
  record g env (← resolve g env c) p vals .commandLine

def longsOf (path : List String) : List String := (g.accepts path).filterMap (·.long)

/-- The error for an unknown `--name`: a similar long name of this command, else of a
subcommand named later on the line (the earliest such subcommand). -/
def unknownLong (c : Cursor) (name : String) (rest : List String) : Stop :=
  let here := (Text.similarTo name (longsOf g c.path)).getLast?
  let below : Option (String × String) := match here with
    | some _ => none
    | none =>
      let found := (g.children c.path).filterMap fun s =>
        match (Text.similarTo name (longsOf g (c.path ++ [s]))).getLast?, rest.idxOf? s with
        | some cand, some pos => some (pos, cand, s)
        | _, _ => none
      match found.foldl (fun best x => match best with
          | some b => if x.1 < b.1 then some x else some b
          | none => some x) none with
      | some (_, cand, s) => some (cand, s)
      | none => none
  let used := c.givenIds ++ match here with
    | some cand => ((g.accepts c.path).find? (·.long == some cand)).toList.map (·.id)
    | none => []
  let trailingTip := here.isNone && below.isNone && !c.trailing && !(g.positionals c.path).isEmpty
  let tips := (here.map fun cand => [similarTip "argument" ["--" ++ cand]]).getD [] ++
    (if trailingTip then ["to pass '--" ++ name ++ "' as a value, use '-- --" ++ name ++ "'"] else []) ++
    (below.map fun (cand, s) => ["'" ++ s ++ " --" ++ cand ++ "' exists"]).getD []
  .refused (errorText ("unexpected argument '--" ++ name ++ "' found") tips
    (some (g.usageWith c.path used)))

def unknownShort (c : Cursor) (flag : String) : Stop :=
  let tips := if !c.trailing && !(g.positionals c.path).isEmpty then
      ["to pass '" ++ flag ++ "' as a value, use '-- " ++ flag ++ "'"]
    else []
  .refused (errorText ("unexpected argument '" ++ flag ++ "' found") tips (some (g.helpUsage c.path)))

/-- The error for a value with no place: a misspelt subcommand, a subcommand after `--`, or an
argument too many. -/
def noPlace (c : Cursor) (arg : String) : Stop :=
  let children := g.children c.path
  let usage := some (g.helpUsage c.path)
  if c.trailing && children.contains arg then
    .refused (errorText ("unexpected argument '" ++ arg ++ "' found")
      ["subcommand '" ++ arg ++ "' exists; to use it, remove the '--' before it"] usage)
  else if !children.isEmpty then
    let similar := Text.similarTo arg children
    let tips := if similar.isEmpty then [] else [similarTip "subcommand" similar]
    .refused (errorText ("unrecognized subcommand '" ++ arg ++ "'") tips usage)
  else
    .refused (errorText ("unexpected argument '" ++ arg ++ "' found") [] usage)

/-- The help page a `help` subcommand names, walking the names after it. -/
def helpTopic (path : List String) : List String → Stop
  | [] => .shown (g.helpPage path env)
  | n :: rest =>
    if (g.children path).contains n then helpTopic (path ++ [n]) rest
    else .refused (errorText ("unrecognized subcommand '" ++ n ++ "'") [] (some (g.helpUsage path)))

/-- A cluster of short switches, from one character on: a switch that takes a value takes the
rest of the cluster (without a leading `=`), or else the next argument. -/
def shorts (c : Cursor) : List Char → Except Stop Cursor
  | [] => .ok c
  | ch :: more =>
    match (g.accepts c.path).find? (·.short == some ch) with
    | none =>
      .error (unknownShort g { settle g env c with trailing := c.trailing } ("-" ++ String.singleton ch))
    | some p =>
      if !p.takesValue then do shorts (← take g env c p []) more
      else if more.isEmpty then do
        let c ← resolve g env c
        return { c with pending := some (p, []), awaiting := true }
      else
        let v := match more with
          | '=' :: rest => rest
          | _ => more
        take g env c p [String.ofList v]

/-- What reading one command's arguments ends with: the end of the arguments, or a subcommand
with the arguments after its name. -/
inductive Scan where
  | finished (c : Cursor)
  | descend (c : Cursor) (name : String) (rest : List String)
  deriving Inhabited

def positional (c : Cursor) (arg : String) : Except Stop Cursor :=
  match (g.positionals c.path)[c.position]? with
  | none => .error (noPlace g { settle g env c with trailing := c.trailing } arg)
  | some p => do
    let many := match p.takes with
      | .positional _ _ m => m
      | _ => false
    let (c, before) ← match c.pending with
      | some (q, vals) => if q.id == p.id && many then pure (c, vals) else do pure (← resolve g env c, [])
      | none => pure (c, [])
    return { c with pending := some (p, before ++ [arg]), awaiting := false
                    position := if many then c.position else c.position + 1, inRepeated := many }

/-- Read the arguments of one command up to its end or a subcommand. -/
def scan (c : Cursor) : List String → Except Stop Scan
  | [] => .ok (.finished c)
  | arg :: rest =>
    if c.trailing then do scan (← positional g env c arg) rest
    else if !c.inRepeated && (g.children c.path).contains arg then
      if arg == "help" then .error (helpTopic g env c.path rest)
      else .ok (.descend c arg rest)
    else if arg == "--" then scan { c with trailing := true } rest
    else if arg.startsWith "--" then
      let body := (arg.drop 2).toString
      let name := (body.takeWhile (· != '=')).toString
      let attached : Option String :=
        if body.contains '=' then some ((body.dropWhile (· != '=')).drop 1).toString else none
      match (g.accepts c.path).find? (·.long == some name) with
      | none => .error (unknownLong g (settle g env c) name rest)
      | some p =>
        if p.takesValue then
          match attached with
          | some v => do scan (← take g env c p [v]) rest
          | none => do
            let c ← resolve g env c
            scan { c with pending := some (p, []), awaiting := true } rest
        else
          match attached with
          | some v =>
            let c := settle g env c
            .error (.refused (errorText ("unexpected value '" ++ v ++ "' for '" ++ p.display ++
              "' found; no more were expected") [] (some (g.usageWith c.path (c.givenIds ++ [p.id])))))
          | none => do scan (← take g env c p []) rest
    else if arg.startsWith "-" && arg.length > 1 then do
      let c ← shorts g env { c with inRepeated := false } (arg.toList.drop 1)
      scan c rest
    else if c.awaiting then
      match c.pending with
      | some (p, vals) => scan { c with pending := some (p, vals ++ [arg]), awaiting := false } rest
      | none => do scan (← positional g env c arg) rest
    else do scan (← positional g env c arg) rest

/-- Finish one command: complete the pending argument, take values from the environment,
and check that nothing required is missing. -/
def finish (c : Cursor) (hasSubcommand : Bool) : Except Stop Cursor := do
  let c ← resolve g env c
  let c ← (g.accepts c.path).foldlM (fun c p =>
    match p.env with
    | some name =>
      if c.has p.id then pure c
      else match env name with
        | some v => record g env c p [v] .environment
        | none => pure c
    | none => pure c) c
  if !hasSubcommand && g.needsSubcommand c.path then
    if c.given.isEmpty then throw (.refused (g.helpPage c.path env))
    throw (.refused (errorText ("'" ++ g.callName c.path ++
      "' requires a subcommand but one was not provided" ++
      possibleValues "subcommands" (g.children c.path)) [] (some (g.helpUsage c.path))))
  let missing := (g.positionals c.path).filter fun p => p.isRequired && !c.has p.id
  if !missing.isEmpty then
    throw (.refused (errorText ("the following required arguments were not provided:" ++
      String.join (missing.map fun p => "\n  " ++ p.usageText true)) []
      (some (g.usageWith c.path (c.givenIds ++ missing.map (·.id))))))
  return c

/-- Read a command and the subcommands below it, with `fuel` levels at most: what was given
at each level, top first. -/
def levels : Nat → List String → List String → Except Stop (List (List String × List Given))
  | 0, _, _ => .ok []
  | fuel + 1, path, args => do
    match ← scan g env { path } args with
    | .finished c =>
      let c ← finish g env c false
      return [(c.path, c.given)]
    | .descend c name rest =>
      let below ← levels fuel (path ++ [name]) rest
      let c ← finish g env c true
      return (c.path, c.given) :: below

end Reader

/-- A command line that was read: the command to run and what was given at each level. -/
structure Parsed where
  path : List String
  levels : List (List String × List Given)
  deriving Inhabited

namespace Parsed

/-- What was given for an argument: a value from the command line wins over one from the
environment, and a deeper command's wins over a higher one's. -/
def lookup (r : Parsed) (id : String) : Option Given :=
  let all := r.levels.flatMap fun (_, gs) => gs.filter (·.param.id == id)
  let pick := fun (src : Source) => (all.filter (·.source == src)).getLast?
  (pick .commandLine).orElse fun _ => pick .environment

def values (r : Parsed) (id : String) : List String := ((r.lookup id).map (·.values)).getD []

def value? (r : Parsed) (id : String) : Option String := (r.values id).head?

def flag (r : Parsed) (id : String) : Bool := (r.lookup id).isSome

def count (r : Parsed) (id : String) : Nat := (r.values id).length

end Parsed

def Grammar.read (g : Grammar) (env : String → Option String) (args : List String) :
    Except Stop Parsed := do
  let levels ← Reader.levels g env (args.length + 1) [] args
  return { path := ((levels.getLast?).map (·.1)).getD [], levels }

end TrackerSync.CommandLine
