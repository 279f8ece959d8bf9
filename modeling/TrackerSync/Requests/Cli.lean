import TrackerSync.Requests.Http
import TrackerSync.Requests.Stores
import TrackerSync.Requests.Scenario
import TrackerSync.Program.Run
import TrackerSync.Store.Query.Apply

/-!
Sessions of the `tl` program on a host, driven by steps, with what it prints cleaned before it
is shown.
-/

namespace TrackerSync.Requests

def sessionClock : Int := 1767225600000

def defaultDb : String := homeDir ++ "/tracklink.db"

def expand (s : String) : String := (expandUrl s).replace "@db" defaultDb

/-- Keys left out of shown JSON at every depth: they hold wall-clock times or durations. -/
def volatileKeys : List String := ["linked_at", "detected_at", "duration_ms", "fetched_at"]

/-- Text without escape sequences (an escape, `[`, and everything up to the first ASCII
letter), lone escapes and carriage returns. -/
def stripEscapes (cs : List Char) : List Char :=
  let step (acc : List Char × Nat) (c : Char) : List Char × Nat :=
    let (out, mode) := acc
    match mode with
    | 1 => if c == '[' then (out, 2) else if c == '\x1b' then (out, 1) else if c == '\r' then (out, 0) else (c :: out, 0)
    | 2 => if c.isAlpha then (out, 0) else (out, 2)
    | _ => if c == '\x1b' then (out, 1) else if c == '\r' then (out, 0) else (c :: out, 0)
  (cs.foldl step ([], 0)).1.reverse

def startsWithTime (cs : List Char) : Bool :=
  let shape := "dddd-dd-dd dd:dd:dd".toList
  cs.length ≥ shape.length &&
    (cs.zip shape).all fun (c, s) => if s == 'd' then c.isDigit else c == s

def maskTimes : List Char → List Char
  | [] => []
  | c :: rest =>
    if startsWithTime (c :: rest) then "@time".toList ++ maskTimes (rest.drop 18)
    else c :: maskTimes rest
termination_by cs => cs.length
decreasing_by all_goals simp only [List.length_drop, List.length_cons]; omega

/-- The length of a duration `in <digits>ms` at the start of a text, if one is there. -/
def durationAt (cs : List Char) : Option Nat :=
  match cs with
  | 'i' :: 'n' :: ' ' :: rest =>
    let digits := rest.takeWhile Char.isDigit
    if !digits.isEmpty && (rest.drop digits.length).take 2 == ['m', 's'] then some (5 + digits.length)
    else none
  | _ => none

/-- Every duration `in <digits>ms` that starts the text or follows a space replaced by
`in @ms`. -/
def maskDurations (atStart : Bool) : List Char → List Char
  | [] => []
  | c :: rest =>
    match (if atStart then durationAt (c :: rest) else none) with
    | some n => "in @ms".toList ++ maskDurations false (rest.drop (n - 1))
    | none => c :: maskDurations (c == ' ') rest
termination_by cs => cs.length
decreasing_by all_goals simp only [List.length_drop, List.length_cons]; omega

def cleanText (s : String) : String :=
  String.ofList (maskDurations true (maskTimes (maskPort (String.ofList (stripEscapes s.toList))).toList))

/-- A JSON value as it is compared: texts cleaned, volatile keys removed. -/
def cleanJson : Json → Json
  | .str s => .str (cleanText s)
  | .arr items => .arr (items_ items)
  | .obj members => .obj (members_ members)
  | other => other
where
  items_ : List Json → List Json
    | [] => []
    | x :: xs => cleanJson x :: items_ xs
  members_ : List (String × Json) → List (String × Json)
    | [] => []
    | (k, v) :: rest =>
      if volatileKeys.contains k then members_ rest else (k, cleanJson v) :: members_ rest

def outputLines (s : String) : List String :=
  let ls := s.splitOn "\n"
  if ls.getLast? == some "" then ls.dropLast else ls

/-- Standard output as compared: one line of JSON as `{"json": value}`, else its lines. -/
def stdoutJson (out : String) : Json :=
  let trimmed := out.trimAscii.toString
  let asJson := if trimmed.contains '\n' then none else (Json.parse trimmed).toOption
  match asJson with
  | some v => Json.mkObj [("json", cleanJson v)]
  | none => Json.mkObj [("text", Json.ofStrings ((outputLines out).map cleanText))]

/-- Standard error as compared: the last structured error line as JSON, else the lines from
the first error line on, else nothing. -/
def stderrJson (err : String) : Json :=
  let ls := outputLines err
  match (ls.filter (·.startsWith "\x7b\"error\"")).getLast? with
  | some line =>
    match Json.parse line with
    | .ok v => Json.mkObj [("json", cleanJson v)]
    | .error _ => Json.mkObj [("text", Json.ofStrings [cleanText line])]
  | none =>
    let rest := ls.dropWhile fun l => !(l.startsWith "Error: " || l.startsWith "error: ")
    if rest.isEmpty then .null else Json.mkObj [("text", Json.ofStrings (rest.map cleanText))]

/-- Whether a character may stand next to an id without joining it. -/
def joinsId (c : Char) : Bool := c.isAlphanum || c == '_'

/-- The minted-id shape at the start of a text: its length, when a kind's prefix, `_` and
twelve lower-case hex digits stand there and no letter, digit or `_` follows. -/
def mintedAt (cs : List Char) : Option Nat :=
  Kind.all.findSome? fun k =>
    let p := (k.idPrefix ++ "_").toList
    let n := p.length + 12
    if cs.take p.length == p && (cs.drop p.length).length ≥ 12 &&
        ((cs.drop p.length).take 12).all isLowerHex && !((cs.drop n).head?.any joinsId) then
      some n
    else none

def mintedIn (prevJoins : Bool) : List Char → List String
  | [] => []
  | c :: rest =>
    match (if prevJoins then none else mintedAt (c :: rest)) with
    | some n => String.ofList ((c :: rest).take n) :: mintedIn true (rest.drop (n - 1))
    | none => mintedIn (joinsId c) rest
termination_by cs => cs.length
decreasing_by all_goals simp only [List.length_drop, List.length_cons]; omega

/-- A text with every aliased id that stands alone replaced by its alias. -/
def replaceIds (aliases : List (String × String)) (prevJoins : Bool) : List Char → List Char
  | [] => []
  | c :: rest =>
    match (if prevJoins then none else mintedAt (c :: rest)) with
    | some n =>
      let id := String.ofList ((c :: rest).take n)
      ((aliases.lookup id).getD id).toList ++ replaceIds aliases true (rest.drop (n - 1))
    | none => c :: replaceIds aliases (joinsId c) rest
termination_by cs => cs.length
decreasing_by all_goals simp only [List.length_drop, List.length_cons]; omega

def aliasJson (aliases : List (String × String)) (j : Json) : Json :=
  j.mapTexts fun t => String.ofList (replaceIds aliases false t.toList)

def sortKeys : Json → Json
  | .arr items => .arr (items_ items)
  | .obj members => Json.mkObj (members_ members)
  | other => other
where
  items_ : List Json → List Json
    | [] => []
    | x :: xs => sortKeys x :: items_ xs
  members_ : List (String × Json) → List (String × Json)
    | [] => []
    | (k, v) :: rest => (k, sortKeys v) :: members_ rest

/-- A session of the program. -/
structure CliSession where
  host : Host
  /-- The `updated_at` each `put_local` gave, by id; these ids are never aliased. -/
  given : Table Int := {}
  /-- Aliases of minted ids, oldest first. -/
  aliases : List (String × String) := []
  /-- How many tracker requests earlier dumps covered. -/
  dumped : Nat := 0
  deriving Inhabited

namespace CliSession

/-- The environment of a run: the home directory and the step's variables. -/
def envOf (step : Json) : Env := fun name =>
  if name == "HOME" then some homeDir
  else match step.get? "env" with
    | some (.obj ms) => (Obj.get? ms name).bind fun v => v.asStr?.map expand
    | _ => none

def runTl (s : CliSession) (step : Json) : Except Failure (CliSession × Json) := do
  let args ← match step.get? "tl" with
    | some (.arr items) => pure (items.filterMap Json.asStr? |>.map expand)
    | _ => throw (badInput "tl must be a list of arguments")
  let ctx : Context := { env := envOf step, terminal := flag step "tty" }
  let (host, ending) := s.host.run ctx args
  let answer := Json.record [("exit", match ending.status with
      | some n => Json.ofNat n
      | none => .null),
    ("stdout", stdoutJson ending.stdout), ("stderr", stderrJson ending.stderr)]
  return ({ s with host }, answer)

def dbOf (step : Json) : String := ((step.getStr? "db").map expand).getD defaultDb

/-- Open a database file as a tool would: created with its schema when missing. -/
def withDatabase (s : CliSession) (path : String) (f : Store → Except Failure Store) :
    Except Failure CliSession := do
  let (disk, st) ← (s.host.disk.openStore path).mapError failureOf
  let st ← f st
  return { s with host := { s.host with disk := disk.saveStore path st } }

def writeSettings (s : CliSession) (content : Json) : Except Failure CliSession := do
  let text := match content with
    | .str t => expand t
    | other => Json.pretty (sortKeys (other.mapTexts expand))
  let disk ← (s.host.disk.createDirAll appDir).mapError fun p => badInput p.message
  let disk ← (disk.writeText settingsPath text).mapError fun p => badInput p.message
  return { s with host := { s.host with disk } }

/-- The local items of a store as dumped, by id: `updated_at` shown as `<touched>` unless it is
the last value a `put_local` gave. -/
def localJson (s : CliSession) (items : List Entity) : List Json :=
  (items.mergeSort fun a b => decide (a.id ≤ b.id)).map fun e =>
    if s.given.get? e.id == some e.updatedAt then e.toJson
    else e.toJson.set "updated_at" (.str "<touched>")

/-- The audit trail of a store by subject: each local item, each link, each synced remote
item and the cache; subjects without rows are left out. -/
def auditDump (st : Store) (items : List Entity) : Json :=
  let subjects := items.map (fun e => (e.kind.name, e.id)) ++
    (st.keys nsLinkLocal).map (fun k => ("link", k)) ++ (st.keys nsBase).map (fun k => ("remote", k)) ++
    [("cache", "*")]
  Json.mkObj (subjects.filterMap fun (t, id) =>
    match st.auditOf t id none with
    | [] => none
    | rows => some (t ++ "/" ++ id, .arr (rows.map auditJson)))

def databaseJson (s : CliSession) (path : String) : CliSession × Json :=
  match s.host.disk.lookup path with
  | .error _ => (s, .null)
  | .ok _ =>
    match s.host.disk.openStore path with
    | .error e => (s, (failureOf e).toJson)
    | .ok (disk, st) =>
      let s := { s with host := { s.host with disk } }
      match st.readAll with
      | .error why => (s, (failureOf (.database why)).toJson)
      | .ok items =>
        (s, Json.mkObj [("local", .arr (s.localJson items)), ("kv", dumpJson st),
          ("audit", auditDump st items)])

/-- Dump a database, the tracker, the requests since the last dump and the settings file. -/
def dump (s : CliSession) (path : String) : CliSession × Json :=
  let (s, db) := s.databaseJson path
  let t := s.host.tracker
  let requests := sortByText ((t.log.drop s.dumped).map sentJson)
  let config := match s.host.disk.readText settingsPath with
    | .ok text => .str (cleanText text)
    | .error _ => .null
  ({ s with dumped := t.log.length },
    Json.record [("db", cleanJson db),
      ("remote", Json.mkObj (t.collections.entries.map fun (k, v) => (k, .arr v))),
      ("requests", .arr (requests.map cleanJson)), ("config", config)])

def perform (s : CliSession) (step : Json) : Except Failure (CliSession × Json) := do
  let h := s.host
  if (step.get? "tl").isSome then s.runTl step
  else if let some c := step.get? "config" then return (← s.writeSettings c, .null)
  else if let some e := step.get? "put_local" then
    let e ← decodeAs Entity.shape Entity.ofChecked e
    let s ← s.withDatabase (dbOf step) fun st => (st.save e).mapError failureOf
    return ({ s with given := s.given.insert e.id e.updatedAt }, .null)
  else if let some w := step.get? "kv_put" then
    let ns ← needText w "ns"
    let key ← needText w "key"
    let value ← needText w "value"
    return (← s.withDatabase (dbOf step) fun st => pure (st.put ns key value), .null)
  else if let some q := step.get? "sql" then
    let text ← match q with
      | .str t => pure t
      | _ => throw (badInput "sql needs a text")
    let (disk, st) ← (h.disk.openStore (dbOf step)).mapError failureOf
    let (st, refusal) := st.runStatements h.clock text
    let s := { s with host := { h with disk := disk.saveStore (dbOf step) st } }
    return (s, match refusal with
      | some why => Json.mkObj [("error", .str "Sql"), ("message", .str why)]
      | none => .null)
  else if let some e := step.get? "edit_remote" then
    let (t, n) := h.tracker.edit ((e.getStr? "endpoint").getD "issues") (← needText e "id")
      (← need e "patch")
    return ({ s with host := { h with tracker := t } }, Json.ofNat n)
  else if let some f := step.get? "fail" then
    return ({ s with host := { h with tracker := h.tracker.plant (← plantedOf f) } }, .null)
  else if (step.get? "clear_failures").isSome then
    return ({ s with host := { h with tracker := h.tracker.clearFailures } }, .null)
  else if let some i := step.get? "interrupt_on" then
    return ({ s with host := { h with signalOn := some (← needText i "method", ← needText i "path") } },
      .null)
  else if let some p := step.get? "mkdir" then
    let path ← match p with
      | .str p => pure (expand p)
      | _ => throw (badInput "mkdir needs a path")
    let disk ← (h.disk.createDirAll path).mapError fun p => badInput p.message
    return ({ s with host := { h with disk } }, .null)
  else if let some p := step.get? "touch" then
    let path ← match p with
      | .str p => pure (expand p)
      | _ => throw (badInput "touch needs a path")
    let disk ← (h.disk.touch path).mapError fun p => badInput p.message
    return ({ s with host := { h with disk } }, .null)
  else if let some p := step.get? "dump" then
    let path ← match p with
      | .str p => pure (expand p)
      | _ => throw (badInput "dump needs a path")
    return s.dump path
  else throw (badInput "unknown cli step")

/-- The links of an answer sorted by local id: the `links` of JSON output, and the rows of a
status or link listing for people. -/
def sortLinks (answer : Json) : Json :=
  match answer.get? "stdout" with
  | some out =>
    match out.get? "json", out.get? "text" with
    | some j, _ =>
      match j.get? "links" with
      | some (.arr ls) =>
        let key := fun (l : Json) => (l.getStr? "local_id").getD ""
        answer.set "stdout" (out.set "json" (j.set "links" (.arr (ls.mergeSort fun a b => decide (key a ≤ key b)))))
      | _ => answer
    | none, some (.arr (.str first :: rest)) =>
      if first.startsWith "Sync status:" || first.endsWith " link(s)" then
        let texts := rest.filterMap Json.asStr?
        answer.set "stdout" (out.set "text"
          (Json.ofStrings (first :: texts.mergeSort fun a b => decide (a ≤ b))))
      else answer
    | _, _ => answer
  | none => answer

/-- Answer one step: aliases given to new minted ids, then links sorted. -/
def step (s : CliSession) (st : Json) : CliSession × Json :=
  match s.perform st with
  | .error f => (s, f.toJson)
  | .ok (s, answer) =>
    let found := mintedIn false (Json.compact answer).toList
    let fresh := found.filter fun id => (s.given.get? id).isNone
    let aliases := addAliases [] s.aliases fresh
    let s := { s with aliases }
    (s, sortLinks (aliasJson aliases answer))

end CliSession

/-- `cli {...}`: run the program's steps over a fresh home directory and tracker server. -/
def cli (req : Json) : Answer := do
  let tracker ← trackerOf req
  let host : Host :=
    { tracker, serverToken := req.getStr? "token", serverPort, clock := sessionClock }
  let steps ← stepsOf req "steps"
  let (_, answers) := runSteps CliSession.step { host } steps
  return Json.mkObj [("steps", .arr answers)]

end TrackerSync.Requests
