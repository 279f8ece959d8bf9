import TrackerSync.Program.Host
import TrackerSync.Program.Render
import TrackerSync.Program.Invocation

/-!
The actions of `tl`: each reads what it needs from the host in a fixed order, stops at the
first error, and gives the text it prints.
-/

namespace TrackerSync

/-- Why an action stopped early. -/
inductive Halt where
  | error (e : Error)
  /-- A signal ended the process. -/
  | signalled
  deriving Inhabited

/-- An action on the host: what it changes stays changed when it stops early. -/
abbrev HostM := ExceptT Halt (StateM Host)

namespace HostM

def lift {α : Type} : Except Error α → HostM α
  | .ok a => pure a
  | .error e => throw (.error e)

/-- A file operation's result, or stop with its failure as an input/output error. -/
def liftIo {α : Type} : Except IoProblem α → HostM α
  | .ok a => pure a
  | .error p => throw (.error (.io p.message))

def settings : HostM Settings := do lift (← get).loadSettings

def openDb (ctx : Context) (inv : Invocation) : HostM (String × Store) := do
  let path := databasePath inv.db ctx.env
  let (h, s) ← lift ((← get).openDatabase path (actorName inv.actor ctx.env))
  set h
  return (path, s)

def saveDb (path : String) (s : Store) : HostM Unit := modify (·.saveDatabase path s)

/-- Run a store action on a database's store, writing the store back. -/
def onStore {α : Type} (path : String) (s : Store) (act : StoreAct α) : HostM (α × Store) := do
  let (r, s, _) := act.run s
  saveDb path s
  let a ← lift r
  return (a, s)

end HostM

def jsonLine (j : Json) : String := Json.compact j ++ "\n"

def schemaVersion : Nat := 1

namespace Commands

open HostM

def version (json : Bool) : HostM String :=
  if json then
    pure (jsonLine (Json.mkObj [("version", .str tlVersion), ("profile", .str "release"),
      ("schema", Json.ofNat schemaVersion), ("default_concurrency", Json.ofNat defaultConcurrency)]))
  else pure (Render.version tlVersion schemaVersion)
where
  tlVersion : String := "0.1.0"

/-- `init`: create the database (over an old one only with `force`, removing its journal
files too) and, when missing, a settings file with no settings. -/
def init (ctx : Context) (inv : Invocation) (force : Bool) (json : Bool) : HostM String := do
  let path := databasePath inv.db ctx.env
  if (← get).disk.holds path then
    if !force then throw (.error (.alreadyInitialized path))
    for suffix in ["", "-wal", "-shm"] do
      let file := path ++ suffix
      if (← get).disk.holds file then
        set { (← get) with disk := ← liftIo ((← get).disk.removeFile file) }
  if let some parent := parentPath path then
    set { (← get) with disk := ← liftIo ((← get).disk.createDirAll parent) }
  let (disk, _) ← lift ((← get).disk.openStore path)
  set { (← get) with disk }
  let created ← if (← get).disk.holds settingsPath then pure false else do
    let disk ← liftIo ((← get).disk.createDirAll appDir)
    let disk ← liftIo (disk.writeText settingsPath "\x7b\x7d")
    set { (← get) with disk }
    pure true
  if json then
    return jsonLine (Json.mkObj [("database", .str path), ("config", .str settingsPath),
      ("config_created", .bool created)])
  return Render.initialized path settingsPath created

def linkJson (r : LinkRecord) : Json := r.toJson

/-- `link add`: link two ids and say whether the local item exists. -/
def linkAdd (ctx : Context) (inv : Invocation) (localId remoteId : String) (json : Bool) :
    HostM String := do
  let (path, s) ← openDb ctx inv
  let (s, r) := Links.link s localId remoteId (← get).clock
  saveDb path s
  lift (r.mapError .link)
  let exists_ ← lift ((s.load localId).map Option.isSome)
  if json then
    return jsonLine (Json.mkObj [("local_id", .str localId), ("remote_id", .str remoteId),
      ("local_exists", .bool exists_)])
  return Render.linked localId remoteId exists_

def linkRemove (ctx : Context) (inv : Invocation) (localId : String) (json : Bool) : HostM String := do
  let (path, s) ← openDb ctx inv
  let (s, r) := Links.unlink s localId
  saveDb path s
  let record ← lift (r.mapError .link)
  if json then return jsonLine (linkJson record)
  return Render.unlinked record

def linkList (ctx : Context) (inv : Invocation) (json : Bool) : HostM String := do
  let (_, s) ← openDb ctx inv
  let records ← lift ((Links.list s).mapError .link)
  if json then
    return jsonLine (Json.mkObj [("count", Json.ofNat records.length),
      ("links", .arr (records.map linkJson))])
  return Render.linkList records

def cacheClock (s : Settings) (h : Host) : CacheClock := { ttl := s.cacheTtl * 1000, now := h.clock }

def cacheStatus (ctx : Context) (inv : Invocation) (json : Bool) : HostM String := do
  let settings ← HostM.settings
  let (path, s) ← openDb ctx inv
  let clock := cacheClock settings (← get)
  let (entries, s) ← onStore path s Cache.entries
  let (summary, s) ← onStore path s (Cache.summary clock)
  let (fresh, _) ← onStore path s (entries.mapM fun e => Cache.isFresh clock e.remoteId)
  let rows := entries.zip fresh
  if json then
    return jsonLine (Json.mkObj [("ttl_secs", Json.ofNat settings.cacheTtl),
      ("total", Json.ofNat summary.total), ("fresh", Json.ofNat summary.fresh),
      ("stale", Json.ofNat summary.stale),
      ("entries", .arr (rows.map fun (e, f) => Json.mkObj [("remote_id", .str e.remoteId),
        ("title", Json.ofOption e.snapshot.title), ("fetched_at", Json.ofInt e.fetchedAt),
        ("fresh", .bool f)]))])
  return Render.cacheStatus summary settings.cacheTtl rows

def cacheClear (ctx : Context) (inv : Invocation) (remoteId : Option String) (json : Bool) :
    HostM String := do
  let _ ← HostM.settings
  let (path, s) ← openDb ctx inv
  let (removed, _) ← onStore path s (Cache.invalidate remoteId)
  if json then
    return jsonLine (Json.mkObj [("scope", .str (remoteId.getD "all")), ("removed", Json.ofNat removed)])
  return Render.cacheCleared removed

def reportJson (r : SyncReport) : Json :=
  Json.mkObj [("kind", .str r.kind.name), ("endpoint", .str r.endpoint), ("dry_run", .bool r.dryRun),
    ("entities", .arr (r.entities.map EntityReport.toJson)),
    ("skipped_unlinked", Json.ofNat r.skippedUnlinked), ("duration_ms", Json.ofNat 0)]

def reportsText (reports : List SyncReport) (json : Bool) : String :=
  if json then jsonLine (Json.mkObj [("reports", .arr (reports.map reportJson))])
  else String.join (reports.map fun r => Render.syncReport r 0)

def kindOf (raw : String) : HostM Kind := lift ((Kind.parse raw).mapError .invalidArgument)

/-- Run sync actions against the tracker over one world; `handled` says whether an interrupt
cancels the run rather than ending the process. The database and the tracker keep what the
actions did, also when one fails. -/
def withTracker {α : Type} (ctx : Context) (settings : Settings) (options : SyncOptions)
    (path : String) (store : Store) (handled : Bool) (act : Runner → SyncM (Except Error α)) :
    HostM α := do
  let url ← lift (settings.trackerUrl ctx.env)
  let h ← get
  let client : Http.Client := { base := url, token := settings.tokenFor ctx.env }
  let runner : Runner :=
    { options, perPage := settings.pageSize, maxPages := settings.pageCeiling
      ttl := settings.cacheTtl * 1000, roundSize := options.concurrency, startsTogether := true
      send := sendThrough h client handled }
  let w : World :=
    { store, tracker := h.tracker, clock := h.clock, wallClock := h.clock, signalOn := h.signalOn }
  let (r, w) := Id.run (StateT.run (act runner) w)
  match w.endedAt with
  | some (s, t) =>
    set ({ h with tracker := t, signalOn := none }.saveDatabase path s)
    throw .signalled
  | none =>
    set ({ h with tracker := w.tracker, signalOn := w.signalOn }.saveDatabase path w.store)
    lift r

def runAll (r : Runner) : List Collection → SyncM (Except Error (List SyncReport))
  | [] => pure (.ok [])
  | c :: rest => do
    match ← SyncM.run r c with
    | .error e => return .error e
    | .ok rep =>
      match ← runAll r rest with
      | .error e => return .error e
      | .ok reps => return .ok (rep :: reps)

/-- `sync run`: the settings' switches overridden by the command line, over one kind's
collection or every configured one. -/
def syncRun (ctx : Context) (inv : Invocation) (kind : Option String) (dryRun : Bool)
    (concurrency : Option Nat) (importUnlinked : Bool) (seedPolicy : Option String) (json : Bool) :
    HostM String := do
  let settings ← HostM.settings
  let options ← lift settings.syncOptions
  let options := { options with dryRun, importUnlinked := options.importUnlinked || importUnlinked }
  let options := match concurrency with
    | some c => { options with concurrency := max 1 c }
    | none => options
  let options ← match seedPolicy with
    | some p => do pure { options with seedPolicy := ← lift ((SeedPolicy.parse p).mapError .invalidArgument) }
    | none => pure options
  let collections ← match kind with
    | some k => do pure [settings.collection (← kindOf k)]
    | none => pure settings.runCollections
  let (path, store) ← openDb ctx inv
  let reports ← withTracker ctx settings options path store true fun r => runAll r collections
  return reportsText reports json

def syncEntity (ctx : Context) (inv : Invocation) (localIds : List String) (kind : String)
    (dryRun : Bool) (json : Bool) : HostM String := do
  let settings ← HostM.settings
  let options ← lift settings.syncOptions
  let options := { options with dryRun }
  let collection := settings.collection (← kindOf kind)
  let (path, store) ← openDb ctx inv
  let report ← withTracker ctx settings options path store false fun r =>
    SyncM.syncEntities r collection localIds
  return reportsText [report] json

/-- `sync status`: every link with whether it was synced, whether its cache entry is fresh
and how many conflicts it has. -/
def syncStatus (ctx : Context) (inv : Invocation) (json : Bool) : HostM String := do
  let settings ← HostM.settings
  let (path, s) ← openDb ctx inv
  let clock := cacheClock settings (← get)
  let sets ← lift (SyncState.listConflicts s)
  let links ← lift ((Links.list s).mapError .link)
  let states ← links.mapM fun l => do
    let synced ← lift ((SyncState.loadBase s l.remoteId).map Option.isSome)
    let (fresh, _) ← onStore path s (Cache.isFresh clock l.remoteId)
    let conflicts := ((sets.find? (·.remoteId == l.remoteId)).map (·.conflicts.length)).getD 0
    pure ({ localId := l.localId, remoteId := l.remoteId, synced, cachedFresh := fresh, conflicts } :
      Render.LinkState)
  let localEntities := s.countAll
  if json then
    return jsonLine (Json.mkObj [("links", .arr (states.map fun st => Json.mkObj [
        ("local_id", .str st.localId), ("remote_id", .str st.remoteId), ("synced", .bool st.synced),
        ("cached_fresh", .bool st.cachedFresh), ("conflicts", Json.ofNat st.conflicts)])),
      ("conflicted_entities", Json.ofNat sets.length), ("local_entities", Json.ofNat localEntities)])
  return Render.syncStatus states sets.length localEntities

def syncConflicts (ctx : Context) (inv : Invocation) (json : Bool) : HostM String := do
  let (_, s) ← openDb ctx inv
  let sets ← lift (SyncState.listConflicts s)
  if json then
    return jsonLine (Json.mkObj [("count", Json.ofNat sets.length),
      ("conflicts", .arr (sets.map ConflictSet.toJson))])
  return Render.conflictList sets

end Commands

end TrackerSync
