import TrackerSync.Snapshot.Basic
import TrackerSync.Status

/-!
What a sync reports as it goes, each event a JSON object tagged by `event`.
-/

namespace TrackerSync

/-- The phase a sync run is in. -/
inductive Phase where
  | init
  | fetchRemote
  | normalize
  | compare
  | apply
  | report
  | done
  | failed
  deriving BEq, DecidableEq, Repr, Inhabited

def Phase.name : Phase → String
  | .init => "init"
  | .fetchRemote => "fetch_remote"
  | .normalize => "normalize"
  | .compare => "compare"
  | .apply => "apply"
  | .report => "report"
  | .done => "done"
  | .failed => "failed"

/-- A diagnostic event of a sync. -/
inductive Event where
  /-- A page of a collection was received. -/
  | pageFetched (endpoint : String) (page items : Nat)
  /-- Paging stopped at the configured ceiling. -/
  | pageLimitReached (endpoint : String) (maxPages : Nat)
  /-- A timestamp could not be read. -/
  | timestampDegraded (field reason : String)
  /-- A record could not be normalized. -/
  | normalizationFailed (reason : String)
  /-- A status is outside the vocabulary. -/
  | unknownStatus (value : String) (suggestion : Suggestion)
  /-- A stale or unreadable cache entry was dropped on read. -/
  | cacheEvicted (remoteId : String)
  /-- The run moved to a new phase. -/
  | phaseChanged (phase : Phase)
  /-- A field changed differently on both sides. -/
  | conflictDetected (localId remoteId : String) (field : Field)
  /-- An entity's changes were committed. -/
  | entityCommitted (localId remoteId : String) (applied : Nat)
  /-- Syncing one entity failed; the run goes on. -/
  | entityFailed (remoteId error : String)
  /-- Earlier writes for an entity were undone. -/
  | compensationApplied (remoteId detail : String)
  deriving BEq, Repr

def Event.toJson : Event → Json
  | .pageFetched e p n =>
    Json.mkObj [("event", .str "page_fetched"), ("endpoint", .str e), ("page", Json.ofNat p),
      ("items", Json.ofNat n)]
  | .pageLimitReached e m =>
    Json.mkObj [("event", .str "page_limit_reached"), ("endpoint", .str e),
      ("max_pages", Json.ofNat m)]
  | .timestampDegraded f r =>
    Json.mkObj [("event", .str "timestamp_degraded"), ("field", .str f), ("reason", .str r)]
  | .normalizationFailed r => Json.mkObj [("event", .str "normalization_failed"), ("reason", .str r)]
  | .unknownStatus v s =>
    Json.mkObj [("event", .str "unknown_status"), ("value", .str v), ("suggestion", s.toJson)]
  | .cacheEvicted r => Json.mkObj [("event", .str "cache_evicted"), ("remote_id", .str r)]
  | .phaseChanged p => Json.mkObj [("event", .str "phase_changed"), ("phase", .str p.name)]
  | .conflictDetected l r f =>
    Json.mkObj [("event", .str "conflict_detected"), ("local_id", .str l), ("remote_id", .str r),
      ("field", .str f.name)]
  | .entityCommitted l r n =>
    Json.mkObj [("event", .str "entity_committed"), ("local_id", .str l), ("remote_id", .str r),
      ("applied", Json.ofNat n)]
  | .entityFailed r e =>
    Json.mkObj [("event", .str "entity_failed"), ("remote_id", .str r), ("error", .str e)]
  | .compensationApplied r d =>
    Json.mkObj [("event", .str "compensation_applied"), ("remote_id", .str r), ("detail", .str d)]

end TrackerSync
