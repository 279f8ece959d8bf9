import TrackerSync.Sync.Report
import TrackerSync.Sync.State
import TrackerSync.Sync.Links
import TrackerSync.Sync.Cache
import TrackerSync.Time.Instant

/-!
What `tl` prints for people, one function per kind of output.
-/

namespace TrackerSync.Render

/-- A text padded on the right with spaces to a width in characters. -/
def padRight (width : Nat) (s : String) : String :=
  s ++ String.ofList (List.replicate (width - s.length) ' ')

def millisText (ms : Int) : String :=
  match Time.Instant.ofMillis? ms with
  | some t => t.dateTimeText " "
  | none => toString ms

def lines (ls : List String) : String := String.join (ls.map (· ++ "\n"))

def version (v : String) (schema : Nat) : String :=
  lines ["tl " ++ v ++ " (release, schema v" ++ toString schema ++ ")"]

/-- What `init` reports: the database, the settings file, and what to do next when the
settings file was just created. -/
def initialized (database config : String) (created : Bool) : String :=
  lines (["Initialized tracklink database", "  Database: " ++ database] ++
    if created then
      ["  Config:   " ++ config ++ " (created)", "",
       "Next: set `remote_url` in the config, then `tl link add <local> <remote>`."]
    else ["  Config:   " ++ config])

def linked (localId remoteId : String) (localExists : Bool) : String :=
  lines (["Linked " ++ localId ++ " ↔ " ++ remoteId] ++
    if localExists then [] else ["  No local entity with this ID exists yet."])

def unlinked (r : LinkRecord) : String := lines ["Unlinked " ++ r.localId ++ " ↔ " ++ r.remoteId]

def linkList (records : List LinkRecord) : String :=
  if records.isEmpty then lines ["No links."]
  else
    lines ((toString records.length ++ " link(s)") :: records.map fun r =>
      "  " ++ padRight 24 r.localId ++ " " ++ padRight 16 r.remoteId ++ " " ++ millisText r.linkedAt)

def cacheStatus (s : CacheSummary) (ttlSecs : Nat) (entries : List (CacheEntry × Bool)) : String :=
  lines (("Cache: " ++ toString s.total ++ " entries (" ++ toString s.fresh ++ " fresh, " ++
      toString s.stale ++ " stale), TTL " ++ toString ttlSecs ++ "s") ::
    entries.map fun (e, fresh) =>
      "  " ++ padRight 12 e.remoteId ++ " " ++ (if fresh then "fresh" else "stale") ++ "  " ++
        millisText e.fetchedAt ++ "  " ++ e.snapshot.title.getD "")

def cacheCleared (removed : Nat) : String :=
  lines ["Removed " ++ toString removed ++ " cache entr" ++ if removed == 1 then "y" else "ies"]

def marker : Outcome → String
  | .unchanged => "·"
  | .applied | .seeded | .created => "✓"
  | .conflicted => "!"
  | .failed => "✗"
  | .cancelled => "-"

/-- The lines of one entity: its outcome, then its changes, conflicts and error. -/
def entityLines (e : EntityReport) : List String :=
  ["  " ++ marker e.outcome ++ " " ++ padRight 12 e.remoteId ++ " " ++ padRight 24 (e.localId.getD "-") ++
    " " ++ e.outcome.name] ++
  e.changes.map (fun c =>
    "      " ++ padRight 12 c.field.name ++ " " ++
      (match c.direction with
        | .toLocal => "→ local "
        | .toRemote => "→ remote") ++ " " ++ c.value.display) ++
  e.conflicts.map (fun c =>
    "      " ++ padRight 12 c.field.name ++ " conflict local " ++ c.localValue.display ++
      " vs remote " ++ c.remoteValue.display) ++
  (e.error.map fun err => ["      " ++ err]).getD []

/-- A run's report: a summary line, then every entity that did not stay unchanged. -/
def syncReport (r : SyncReport) (durationMs : Nat) : String :=
  let summary := toString r.entities.length ++ " entities, " ++ toString r.totalApplied ++
    " fields applied, " ++ toString (r.count .conflicted) ++ " conflicted, " ++
    toString (r.count .failed) ++ " failed" ++
    (if r.skippedUnlinked > 0 then ", " ++ toString r.skippedUnlinked ++ " unlinked skipped" else "") ++
    (if r.dryRun then " [dry run]" else "")
  lines ((r.endpoint ++ " (" ++ r.kind.name ++ ") " ++ summary ++ " in " ++ toString durationMs ++ "ms") ::
    (r.entities.filter (·.outcome != .unchanged)).flatMap entityLines)

/-- One link's sync state. -/
structure LinkState where
  localId : String
  remoteId : String
  synced : Bool
  cachedFresh : Bool
  conflicts : Nat

def syncStatus (states : List LinkState) (conflicted localEntities : Nat) : String :=
  lines (("Sync status: " ++ toString localEntities ++ " local entities, " ++
      toString states.length ++ " links, " ++ toString conflicted ++ " with conflicts") ::
    states.map fun s =>
      let state := if s.conflicts > 0 then toString s.conflicts ++ " conflict(s)"
        else if s.synced then "synced" else "never synced"
      "  " ++ padRight 24 s.localId ++ " ↔ " ++ padRight 12 s.remoteId ++ " " ++ state ++ "  " ++
        if s.cachedFresh then "cached" else "")

def conflictList (sets : List ConflictSet) : String :=
  if sets.isEmpty then lines ["No unresolved conflicts."]
  else
    lines (sets.flatMap (fun s =>
      (s.localId ++ " ↔ " ++ s.remoteId ++ "  detected " ++ millisText s.detectedAt) ::
        s.conflicts.map fun c =>
          "  " ++ padRight 12 c.field.name ++ " base " ++ c.baseValue.display ++ "  local " ++
            c.localValue.display ++ "  remote " ++ c.remoteValue.display) ++
      ["", "Edit either side so the values agree, then run `tl sync run` again."])

end TrackerSync.Render
