import TrackerSync.Sync.Apply

/-!
Sync runs over a collection or over chosen local items, phase by phase.
-/

namespace TrackerSync

/-- A list cut into consecutive pieces of `n` items (the last may be shorter). -/
def chunks {α : Type} (n : Nat) (xs : List α) : List (List α) :=
  if _hn : n = 0 then [xs]
  else
    match xs with
    | [] => []
    | x :: rest => (x :: rest).take n :: chunks n ((x :: rest).drop n)
termination_by xs.length
decreasing_by simp; omega

/-- Reports sorted by remote id, entities of one remote id in the order they came. -/
def sortByRemoteId (reports : List EntityReport) : List EntityReport :=
  reports.mergeSort fun a b => decide (a.remoteId ≤ b.remoteId)

namespace SyncM

/-- Normalize a listed item; an item that cannot be normalized is a failed entity, under
`(unknown)` when it has no readable id. -/
def normalizeItem (item : Json) : SyncM (Except EntityReport Snapshot) := do
  let raw := RawRecord.payload item
  let (result, events) := raw.normalize
  emitAll events
  match result with
  | .present s => return .ok s
  | .absent why =>
    let remoteId := raw.remoteId.getD "(unknown)"
    return .error (EntityReport.failed remoteId (← localFor remoteId)
      ("normalization failed: " ++ why.display))

def normalizeItems : List Json → SyncM (List Snapshot × List EntityReport)
  | [] => pure ([], [])
  | item :: rest => do
    let head ← normalizeItem item
    let (snaps, failed) ← normalizeItems rest
    match head with
    | .ok s => return (s :: snaps, failed)
    | .error rep => return (snaps, rep :: failed)

/-- Plan remote snapshots: the plans, the failed entities and how many were left unlinked. -/
def planAll (r : Runner) (kind : Kind) (targeted : Bool) :
    List Snapshot → SyncM (List Plan × List EntityReport × Nat)
  | [] => pure ([], [], 0)
  | remote :: rest => do
    let head ← plan r kind remote targeted
    let (plans, failed, skipped) ← planAll r kind targeted rest
    match head with
    | .ok (some p) => return (p :: plans, failed, skipped)
    | .ok none => return (plans, failed, skipped + 1)
    | .error rep => return (plans, rep :: failed, skipped)

def processRound (r : Runner) (collection : Collection) (abort : Bool) :
    List Plan → SyncM (List (EntityReport × Option SyncError))
  | [] => pure []
  | p :: rest => do
    let head ← process r collection abort p
    return head :: (← processRound r collection abort rest)

/-- Process rounds of plans; the first refused credentials abort the later rounds, and so
does cancelling when the entities of a round start together. -/
def processRounds (r : Runner) (collection : Collection) :
    Option SyncError → List (List Plan) → SyncM (List EntityReport × Option SyncError)
  | fatal, [] => pure ([], fatal)
  | fatal, round :: rest => do
    let abort := fatal.isSome || (r.startsTogether && (← get).cancelled)
    let results ← processRound r collection abort round
    let fatal := results.foldl (fun f (_, e) => f <|> e) fatal
    let (reports, fatal) ← processRounds r collection fatal rest
    return (results.map (·.1) ++ reports, fatal)

/-- Compare, apply and report the remote snapshots of a run, after the failed entities found
so far. -/
def execute (r : Runner) (collection : Collection) (remotes : List Snapshot)
    (failed : List EntityReport) (targeted : Bool) : SyncM (Except Error SyncReport) := do
  setPhase r .compare
  let (plans, planFailed, skipped) ← planAll r collection.kind targeted remotes
  setPhase r .apply
  let (done, fatal) ← if r.options.dryRun then pure (plans.map Plan.report, none)
    else processRounds r collection none (chunks r.roundSize plans)
  match fatal with
  | some e =>
    setPhase r .failed
    return .error (.sync e)
  | none =>
    setPhase r .report
    let report : SyncReport :=
      { kind := collection.kind, endpoint := collection.endpoint, dryRun := r.options.dryRun
        entities := sortByRemoteId (failed ++ planFailed ++ done), skippedUnlinked := skipped }
    setPhase r .done
    return .ok report

def run (r : Runner) (collection : Collection) : SyncM (Except Error SyncReport) := do
  setPhase r .init
  setPhase r .fetchRemote
  match ← Remote.fetchAll r.send emit collection.endpoint collection.params r.perPage r.maxPages with
  | .error e =>
    setPhase r .failed
    return .error (.sync (if e.isFatal then .authentication e.message
      else .listing collection.endpoint e))
  | .ok items =>
    setPhase r .normalize
    let (remotes, failed) ← normalizeItems items
    execute r collection remotes failed false

/-- The remote ids linked to local ids; an unlinked one is an error. -/
def targetsOf (s : Store) (localIds : List String) : Except LinkError (List String) :=
  localIds.mapM fun id =>
    match Links.remoteFor s id with
    | .ok (some remoteId) => .ok remoteId
    | .ok none => .error (.notLinked id)
    | .error e => .error e

/-- The remote snapshots of targeted remote ids, each from a fresh cache entry or read by id,
with the failed entities; refused credentials end the run. -/
def gather (r : Runner) (collection : Collection) :
    List String → List Snapshot → List EntityReport →
      SyncM (Except Error (List Snapshot × List EntityReport))
  | [], snaps, failed => pure (.ok (snaps, failed))
  | remoteId :: rest, snaps, failed => do
    let clock ← cacheClock r
    match ← store (Cache.get clock remoteId) with
    | .error e => return .error e
    | .ok (some s) => gather r collection rest (snaps ++ [s]) failed
    | .ok none =>
      match ← Remote.fetchOne r.send collection.endpoint remoteId with
      | .ok (some item) =>
        match ← normalizeItem item with
        | .ok s => gather r collection rest (snaps ++ [s]) failed
        | .error rep => gather r collection rest snaps (failed ++ [rep])
      | .ok none =>
        let rep := EntityReport.failed remoteId (← localFor remoteId) "remote entity no longer exists"
        gather r collection rest snaps (failed ++ [rep])
      | .error e =>
        if e.isFatal then
          setPhase r .failed
          return .error (.sync (.authentication e.message))
        let rep := EntityReport.failed remoteId (← localFor remoteId) e.message
        gather r collection rest snaps (failed ++ [rep])

def syncEntities (r : Runner) (collection : Collection) (localIds : List String) :
    SyncM (Except Error SyncReport) := do
  setPhase r .init
  match targetsOf (← get).store localIds with
  | .error e => return .error (.link e)
  | .ok targets =>
    setPhase r .fetchRemote
    match ← gather r collection targets [] [] with
    | .error e => return .error e
    | .ok (remotes, failed) =>
      setPhase r .normalize
      execute r collection remotes failed true

end SyncM

end TrackerSync
