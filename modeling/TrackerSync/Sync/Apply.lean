import TrackerSync.Sync.Plan
import TrackerSync.Remote.Fetch

/-!
Carrying out a plan: push, local save, then one batch; a failure after the first write is
compensated.
-/

namespace TrackerSync

/-- The body of a field update: each field's name with its value. -/
def fieldParams (fields : List (Field × FieldValue)) : Remote.Params :=
  Obj.ofList (fields.map fun (f, v) => (f.name, v.toJson))

def pushedFields (changes : List FieldChange) : List (Field × FieldValue) :=
  changes.map fun c => (c.field, c.value)

/-- Put a plan's local item back in a store: the linked item as it was planned, or an imported
item removed. -/
def Plan.undoLocal (p : Plan) (s : Store) : Except Error Store :=
  match p.pairing with
  | .linked before => s.save before
  | .imported created => (s.removeItem created.id).map (·.2)

namespace SyncM

/-- The item the answer to a push carries, normalized, if it carries one. -/
def echoed (body : Json) : SyncM (Option Snapshot) :=
  match body with
  | .null | .obj [] => pure none
  | b => do
    let (result, events) := (RawRecord.payload b).normalize
    emitAll events
    pure result.toOption

/-- The remote state after a push: the answer when it normalizes to an item (under the plan's
remote id), else the planned remote state with the pushed values set. -/
def pushedState (p : Plan) (pushed : List FieldChange) (body : Json) : SyncM Snapshot := do
  match ← echoed body with
  | some s => return { s with id := p.remoteId }
  | none => return pushed.foldl (fun s c => s.set c.field c.value) p.remote

def restoreLocal (p : Plan) : SyncM (List String) := do
  let w ← get
  match p.undoLocal w.store with
  | .ok s =>
    set { w with store := s }
    pure ["local restored"]
  | .error e => pure ["local restore failed: " ++ e.message]

/-- Set pushed fields back on the tracker to the values the plan saw there. Says what was done. -/
def revertPush (r : Runner) (p : Plan) (itemPath : String) (pushed : List FieldChange) :
    SyncM (List String) := do
  let originals := pushed.map fun c => (c.field, p.remote.get c.field)
  match ← r.send .patch itemPath (fieldParams originals) with
  | .ok _ => pure [toString pushed.length ++ " remote field(s) reverted"]
  | .error f => pure ["remote revert failed: " ++ f.message]

/-- Undo what was written for a plan, as far as possible, and say what was undone. -/
def compensate (r : Runner) (p : Plan) (itemPath : String) (pushed : List FieldChange)
    (localWritten : Bool) : SyncM Unit := do
  let _ ← store (Cache.invalidate (some p.remoteId))
  let restored ← (if localWritten then restoreLocal p else pure [])
  let reverted ← (if pushed.isEmpty then pure [] else revertPush r p itemPath pushed)
  let detail := restored ++ reverted
  if !detail.isEmpty then emit (.compensationApplied p.remoteId ("; ".intercalate detail))

/-- Push the to-remote changes and give the remote state after them; with none, the planned
remote state. A push the tracker did not keep is compensated and fails. -/
def push (r : Runner) (p : Plan) (itemPath : String) (toRemote : List FieldChange) :
    SyncM (Except Error Snapshot) := do
  if toRemote.isEmpty then return .ok p.remote
  match ← r.send .patch itemPath (fieldParams (pushedFields toRemote)) with
  | .error f => return .error (.remote f)
  | .ok response =>
    let after ← pushedState p toRemote response.body
    let ignored := toRemote.filter fun c => after.get c.field != c.value
    if ignored.isEmpty then return .ok after
    compensate r p itemPath toRemote false
    return .error (.sync (.pushIgnored p.remoteId (", ".intercalate (ignored.map (·.field.name)))))

/-- Save the local item with the to-local changes written into it and the wall clock stamped. -/
def saveLocal (p : Plan) (toLocal : List FieldChange) : SyncM (Except Error Unit) := do
  let w ← get
  let updated := toLocal.foldl (fun e c => e.applyChange c.field c.value) p.pairing.entity
  match w.store.save { updated with updatedAt := w.wallClock } with
  | .ok s =>
    set { w with store := s }
    return .ok ()
  | .error e => return .error e

/-- Record the link, the cache entry, the next base and the open conflicts in one batch. -/
def commit (r : Runner) (p : Plan) (remoteAfter : Snapshot) (nextBase : StoredBase)
    (conflicts : ConflictSet) : SyncM (Except Error Unit) := do
  let clock ← cacheClock r
  let w ← get
  let writes := [Cache.putOp clock p.remoteId remoteAfter, SyncState.baseOp p.remoteId nextBase,
    SyncState.conflictsOp conflicts]
  let (s, result) := Links.commitWith w.store p.localId p.remoteId writes w.wallClock
  set { w with store := s }
  return result.mapError .link

/-- Cache the observed remote state of an entity that needs no writes (a failure is ignored). -/
def refreshCache (r : Runner) (p : Plan) : SyncM Unit := do
  let clock ← cacheClock r
  let _ ← store (Cache.put clock p.remoteId p.remote)

def apply (r : Runner) (collection : Collection) (p : Plan) : SyncM (Except Error Unit) := do
  match p.detection with
  | none =>
    refreshCache r p
    return .ok ()
  | some d =>
    let toRemote := d.changes.filter (·.direction == .toRemote)
    let toLocal := d.changes.filter (·.direction == .toLocal)
    let isImport := p.pairing.isImport
    let conflicts : ConflictSet :=
      { localId := p.localId, remoteId := p.remoteId, detectedAt := (← get).wallClock
        conflicts := d.conflicts }
    match SyncState.loadConflicts (← get).store p.remoteId with
    | .error e => return .error e
    | .ok stored =>
      let conflictsMoved := (stored.map (·.conflicts)).getD [] != conflicts.conflicts
      let baseMoved :=
        p.base.map (·.fingerprint) != some (StoredBase.ofSnapshot (d.nextBase p.remote)).fingerprint
      if toRemote.isEmpty && toLocal.isEmpty && !isImport && !baseMoved && !conflictsMoved then
        refreshCache r p
        return .ok ()
      let itemPath := Remote.trimTrailingSlashes collection.endpoint ++ "/" ++ p.remoteId
      match ← push r p itemPath toRemote with
      | .error e => return .error e
      | .ok remoteAfter =>
        let localWritten := !toLocal.isEmpty || isImport
        if localWritten then
          match ← saveLocal p toLocal with
          | .error e =>
            compensate r p itemPath toRemote false
            return .error e
          | .ok () => pure ()
        match ← commit r p remoteAfter (StoredBase.ofSnapshot (d.nextBase remoteAfter)) conflicts with
        | .error e =>
          compensate r p itemPath toRemote localWritten
          return .error e
        | .ok () => return .ok ()

/-- Process one planned entity: cancelled, or checked again and carried out, with its report and the
failure that aborts the run when its credentials were refused. -/
def process (r : Runner) (collection : Collection) (abort : Bool) (p : Plan) :
    SyncM (EntityReport × Option SyncError) := do
  if (!r.startsTogether && (← get).cancelled) || abort then
    return (EntityReport.cancelled p.remoteId (some p.localId), none)
  match ← refresh r collection.kind p with
  | .ok none => return (EntityReport.failed p.remoteId none "link removed during sync", none)
  | .error rep => return (rep, none)
  | .ok (some p) =>
    match ← apply r collection p with
    | .ok () =>
      let rep := p.report
      if p.detection.isSome then
        emit (.entityCommitted p.localId p.remoteId rep.changes.length)
      rep.conflicts.forM fun c => emit (.conflictDetected p.localId p.remoteId c.field)
      return (rep, none)
    | .error e =>
      emit (.entityFailed p.remoteId e.message)
      let fatal : Option SyncError := match e with
        | .remote f => if f.isFatal then some (.authentication f.message) else none
        | _ => none
      return ({ p.report with outcome := .failed, error := some e.message }, fatal)

end SyncM

end TrackerSync
