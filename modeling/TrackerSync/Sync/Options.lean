import TrackerSync.Detection.Basic
import TrackerSync.Json.Value

/-!
Switches of a sync run.
-/

namespace TrackerSync

def defaultConcurrency : Nat := 4

def defaultPerPage : Nat := 100

def defaultMaxPages : Nat := 1000

/-- Switches of a sync run. -/
structure SyncOptions where
  dryRun : Bool := false
  concurrency : Nat := defaultConcurrency
  seedPolicy : SeedPolicy := .fillEmptyLocal
  importUnlinked : Bool := false
  deriving BEq, Repr, Inhabited

def SyncOptions.toJson (o : SyncOptions) : Json :=
  Json.record [("dry_run", .bool o.dryRun), ("concurrency", Json.ofNat o.concurrency),
    ("seed_policy", .str o.seedPolicy.name), ("import_unlinked", .bool o.importUnlinked)]

end TrackerSync
