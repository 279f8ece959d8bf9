import TrackerSync.Disk
import TrackerSync.Config
import TrackerSync.Http.Exchange
import TrackerSync.Sync.Run

/-!
The host a run of `tl` sees: its files, the tracker's server, a signal that may arrive during a
request, and the places the program looks in.
-/

namespace TrackerSync

/-- The machine a run happens on. -/
structure Host where
  disk : Disk := {}
  tracker : Remote.Tracker := {}
  /-- The token the tracker's server requires, if any. -/
  serverToken : Option String := none
  /-- The port the tracker's server listens on. -/
  serverPort : Nat
  /-- The wall clock, Unix milliseconds. -/
  clock : Int
  /-- A signal that arrives while a request with this method (any case) and endpoint is with
  the tracker, until one does. -/
  signalOn : Option (String × String) := none
  deriving Inhabited

/-- How a run ended. -/
structure Ending where
  /-- The exit status; none when a signal ended the run. -/
  status : Option Nat
  stdout : String := ""
  stderr : String := ""
  deriving Inhabited

/-- What a run is given besides its arguments. -/
structure Context where
  env : Env
  /-- Whether standard output is a terminal. -/
  terminal : Bool

def appDir : String := homeDir ++ "/.tracklink"

def settingsPath : String := appDir ++ "/config.json"

/-- Whether an environment value switches something on: not empty, not `0`, not `false` in
any case. -/
def isTruthy (v : String) : Bool := !v.isEmpty && v != "0" && v.toLower != "false"

/-- The database path: the one given, else the test database when test mode is on, else the
`TRACKLINK_DB` variable when not blank, else the default one. -/
def databasePath (given : Option String) (env : Env) : String :=
  match given with
  | some p => p
  | none =>
    if (env "TL_TEST_DB").any isTruthy then appDir ++ "/test/tracklink.db"
    else (envValue env "TRACKLINK_DB").getD (appDir ++ "/data/tracklink.db")

/-- The actor written to audit rows: the one given, else `USER` when not blank, else `tl`.
-/
def actorName (given : Option String) (env : Env) : String :=
  match given with
  | some a => a
  | none => ((envValue env "TL_ACTOR").orElse fun _ => envValue env "USER").getD "tl"

namespace Host

/-- The settings from the settings file; a missing file gives the defaults. -/
def loadSettings (h : Host) : Except Error Settings :=
  match h.disk.readText settingsPath with
  | .error .notFound => .ok {}
  | .error p => .error (.io p.message)
  | .ok text =>
    match Settings.decode text with
    | .ok s => .ok s
    | .error e => .error (.config (settingsPath ++ ": " ++ e.text))

def openDatabase (h : Host) (path actor : String) : Except Error (Host × Store) := do
  if !h.disk.holds path then throw .notInitialized
  let (disk, store) ← h.disk.openStore path
  return ({ h with disk }, { store with actor })

def saveDatabase (h : Host) (path : String) (s : Store) : Host :=
  { h with disk := h.disk.saveStore path { s with actor := "tl" } }

def server (h : Host) (t : Remote.Tracker) : Http.Server :=
  { tracker := t, token := h.serverToken, port := h.serverPort }

end Host

/-- Whether a request matches an armed signal: the same method in any case, the same
endpoint. -/
def signalMatches (signal : String × String) (s : Remote.Sent) : Bool :=
  s.method.text.toUpper == signal.1.toUpper && s.path == signal.2

/-- Send a request through a client to the tracker's server. When the request sets off the
armed signal, a run that handles it is cancelled, and any other run ends there, with the
store and tracker as they stand. -/
def sendThrough (h : Host) (client : Http.Client) (handled : Bool) (m : Remote.Method)
    (endpoint : String) (params : Remote.Params) : SyncM (Except Remote.Failure Remote.Response) :=
  modifyGet fun w =>
    let (server, r) := Http.exchange client (h.server w.tracker) m endpoint params
    let arrived := server.tracker.log.drop w.tracker.log.length
    let w' := { w with tracker := server.tracker }
    match w.signalOn with
    | some sig =>
      if arrived.any (signalMatches sig) then
        if handled then (r, { w' with signalOn := none, cancelled := true })
        else (r, { w' with signalOn := none, endedAt := w.endedAt.orElse fun _ => some (w.store, server.tracker) })
      else (r, w')
    | none => (r, w')

end TrackerSync
