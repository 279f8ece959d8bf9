import TrackerSync.Sync.World
import TrackerSync.Sync.State
import TrackerSync.Sync.Report
import TrackerSync.Normalized.Record

/-!
Plans: what a run means to do with one remote item.
-/

namespace TrackerSync

/-- How the local side of a pair was found. -/
inductive Pairing where
  /-- The linked local item. -/
  | linked (e : Entity)
  /-- A new local item made from the remote item. -/
  | imported (e : Entity)
  deriving Inhabited

namespace Pairing

def entity : Pairing → Entity
  | .linked e | .imported e => e

def isImport : Pairing → Bool
  | .imported _ => true
  | .linked _ => false

end Pairing

/-- What a run means to do with one remote item. -/
structure Plan where
  remoteId : String
  localId : String
  pairing : Pairing
  remote : Snapshot
  base : Option StoredBase
  /-- None when the fingerprints show nothing changed. -/
  detection : Option Detection
  deriving Inhabited

namespace Plan

def changes (p : Plan) : List FieldChange := (p.detection.map Detection.changes).getD []

def outcome (p : Plan) : Outcome :=
  match p.detection with
  | none => .unchanged
  | some d =>
    if p.pairing.isImport then .created
    else if !d.conflicts.isEmpty then .conflicted
    else if d.isSeed then .seeded
    else if d.changes.isEmpty then .unchanged
    else .applied

def report (p : Plan) : EntityReport :=
  { localId := some p.localId, remoteId := p.remoteId
    status := some ((p.detection.map Detection.standing).getD .clean)
    outcome := p.outcome, changes := p.changes
    conflicts := (p.detection.map Detection.conflicts).getD [] }

end Plan

/-- A new local item of a kind that mirrors a remote snapshot, stamped with the wall clock. -/
def Entity.ofRemote (id : String) (kind : Kind) (remote : Snapshot) (now : Int) : Entity :=
  { id, kind, title := remote.title.getD "", status := remote.status.getD ""
    assignee := remote.assignee, milestone := remote.milestone, description := remote.description
    labels := remote.labels, updatedAt := now }

/-- Write one resolved value into a local item, by the rules of `Snapshot.set`; a missing title
or status becomes empty text. -/
def Entity.applyChange (e : Entity) (f : Field) (v : FieldValue) : Entity :=
  match f with
  | .title => { e with title := (Snapshot.textOf v).getD "" }
  | .status => { e with status := (Snapshot.textOf v).getD "" }
  | .assignee => { e with assignee := Snapshot.textOf v }
  | .milestone => { e with milestone := Snapshot.textOf v }
  | .description => { e with description := Snapshot.textOf v }
  | .labels => { e with labels := Snapshot.labelsOf v }

namespace SyncM

/-- The local side of a remote item: its linked local item, or a new one for an unlinked item
when imports are on and the run is not targeted; `none` leaves the item alone. -/
def pair (r : Runner) (kind : Kind) (remote : Snapshot) (targeted : Bool) :
    SyncM (Except EntityReport (Option Pairing)) := do
  let fail (localId : Option String) (message : String) :=
    EntityReport.failed remote.id localId message
  let w ← get
  match Links.localFor w.store remote.id with
  | .error e => return .error (fail none e.message)
  | .ok (some localId) =>
    match w.store.load localId with
    | .ok (some e) => return .ok (some (.linked e))
    | .ok none => return .error (fail (some localId) (Error.entityNotFound localId).message)
    | .error e => return .error (fail (some localId) e.message)
  | .ok none =>
    if r.options.importUnlinked && !targeted then
      let id ← mint kind
      return .ok (some (.imported (Entity.ofRemote id kind remote (← get).wallClock)))
    else return .ok none

/-- Plan one remote item. `none`: the item has no link and is left alone (always so for a
targeted run). A failure is the report of the failed entity. -/
def plan (r : Runner) (kind : Kind) (remote : Snapshot) (targeted : Bool) :
    SyncM (Except EntityReport (Option Plan)) := do
  match ← pair r kind remote targeted with
  | .error rep => return .error rep
  | .ok none => return .ok none
  | .ok (some pairing) =>
    let localEntity := pairing.entity
    let (loc, events) := localEntity.normalize
    emitAll events
    match SyncState.loadBase (← get).store remote.id with
    | .error e => return .error (EntityReport.failed remote.id (some localEntity.id) e.message)
    | .ok base =>
      let unchanged := match base with
        | some b => loc.fingerprint == b.fingerprint && remote.fingerprint == b.fingerprint
        | none => false
      let detection :=
        if unchanged then none
        else some (detect r.options.seedPolicy (base.map (·.snapshot)) loc remote)
      return .ok (some { remoteId := remote.id, localId := localEntity.id, pairing, remote, base,
                         detection })

/-- Check a plan again before it is applied: kept when the stored base, the linked local item
and (for an import) the absence of a link are as planned, else planned anew. -/
def refresh (r : Runner) (kind : Kind) (p : Plan) : SyncM (Except EntityReport (Option Plan)) := do
  let w ← get
  let baseNow := (SyncState.loadBase w.store p.remoteId).toOption.join
  let linkNow ← localFor p.remoteId
  let sameSide := match p.pairing with
    | .linked before => (w.store.load before.id).toOption.join == some before
    | .imported _ => linkNow.isNone
  if baseNow.map (·.fingerprint) == p.base.map (·.fingerprint) && sameSide then
    return .ok (some p)
  plan r kind p.remote (!p.pairing.isImport)

end SyncM

end TrackerSync
