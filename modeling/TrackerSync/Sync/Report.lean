import TrackerSync.Detection.Codec
import TrackerSync.Entity.Kind

/-!
Reports of sync runs: what happened to each entity, and totals over a run.
-/

namespace TrackerSync

/-- What happened to one entity. -/
inductive Outcome where
  | unchanged
  | applied
  /-- The first sync of a linked pair. -/
  | seeded
  /-- A local item was created for an unlinked remote item. -/
  | created
  | conflicted
  | failed
  | cancelled
  deriving BEq, DecidableEq, Repr, Inhabited

namespace Outcome

def all : List Outcome := [.unchanged, .applied, .seeded, .created, .conflicted, .failed, .cancelled]

def name : Outcome → String
  | .unchanged => "unchanged"
  | .applied => "applied"
  | .seeded => "seeded"
  | .created => "created"
  | .conflicted => "conflicted"
  | .failed => "failed"
  | .cancelled => "cancelled"

def ofName? (s : String) : Option Outcome := all.find? (·.name == s)

/-- Whether the entity's changes were (or, in a dry run, would be) written. -/
def writes : Outcome → Bool
  | .applied | .seeded | .created | .conflicted => true
  | _ => false

end Outcome

/-- The result for one entity. -/
structure EntityReport where
  localId : Option String
  remoteId : String
  /-- None when the entity failed before it was compared. -/
  status : Option Standing
  outcome : Outcome
  changes : List FieldChange := []
  conflicts : List ConflictRecord := []
  error : Option String := none
  deriving Inhabited

namespace EntityReport

def failed (remoteId : String) (localId : Option String) (error : String) : EntityReport :=
  { localId, remoteId, status := none, outcome := .failed, error := some error }

def cancelled (remoteId : String) (localId : Option String) : EntityReport :=
  { localId, remoteId, status := none, outcome := .cancelled }

def appliedTo (r : EntityReport) (d : Direction) : Nat :=
  if r.outcome.writes then (r.changes.filter (·.direction == d)).length else 0

def appliedLocal (r : EntityReport) : Nat := r.appliedTo .toLocal

def appliedRemote (r : EntityReport) : Nat := r.appliedTo .toRemote

def toJson (r : EntityReport) : Json :=
  let base := [("local_id", Json.ofOption r.localId), ("remote_id", .str r.remoteId),
    ("status", match r.status with
      | some s => .str s.name
      | none => .null),
    ("outcome", .str r.outcome.name), ("changes", .arr (r.changes.map FieldChange.toJson)),
    ("conflicts", .arr (r.conflicts.map ConflictRecord.toJson))]
  Json.record (match r.error with
    | some e => base ++ [("error", .str e)]
    | none => base)

end EntityReport

/-- The result of a run over a collection. -/
structure SyncReport where
  kind : Kind
  endpoint : String
  dryRun : Bool
  entities : List EntityReport
  /-- Remote items without a link that were left alone. -/
  skippedUnlinked : Nat
  deriving Inhabited

namespace SyncReport

def count (r : SyncReport) (o : Outcome) : Nat := (r.entities.filter (·.outcome == o)).length

def totalApplied (r : SyncReport) : Nat :=
  (r.entities.map fun e => e.appliedLocal + e.appliedRemote).foldl (· + ·) 0

def conflicts (r : SyncReport) : List (EntityReport × ConflictRecord) :=
  r.entities.flatMap fun e => e.conflicts.map (e, ·)

def entity? (r : SyncReport) (remoteId : String) : Option EntityReport :=
  r.entities.find? (·.remoteId == remoteId)

def hasFailures (r : SyncReport) : Bool := r.count .failed > 0

end SyncReport

end TrackerSync
