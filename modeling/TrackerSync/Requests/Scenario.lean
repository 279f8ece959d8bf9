import TrackerSync.Requests.Remote
import TrackerSync.Sync.Run

/-!
Scenarios: a scripted tracker, a store and a manual clock driven by a list of steps, each answered
with its result, the requests it caused and the state after it.
-/

namespace TrackerSync.Requests

/-- Run switches from a request member: each key given overrides the defaults. -/
def syncOptionsOf (j : Json) : Except Failure SyncOptions := do
  let d : SyncOptions := {}
  let dryRun := match j.get? "dry_run" with
    | some (.bool b) => b
    | _ => d.dryRun
  let importUnlinked := match j.get? "import_unlinked" with
    | some (.bool b) => b
    | _ => d.importUnlinked
  let concurrency := ((j.get? "concurrency").bind Json.asNat?).getD d.concurrency
  let seedPolicy ← match j.get? "seed_policy" with
    | some (.str s) => orFail "UnknownSeedPolicy" (SeedPolicy.parse s)
    | _ => pure d.seedPolicy
  return { dryRun, concurrency, seedPolicy, importUnlinked }

def mergeOptions (base step : Option Json) : Json :=
  let members (j : Option Json) := (j.bind Json.members?).getD []
  Json.mkObj (members base ++ members step)

/-- A scenario in progress. -/
structure Session where
  world : World
  /-- Run switches of the scenario, before a step's own. -/
  options : Option Json
  perPage : Nat
  maxPages : Nat
  ttl : Nat
  /-- The `updated_at` the scenario last gave for each local id. -/
  given : Table Int := {}
  /-- The texts of the scenario: ids among them are never aliased. -/
  known : List String
  /-- Aliases of minted ids, oldest first. -/
  aliases : List (String × String) := []
  deriving Inhabited

/-- What another writer does when a run enters its apply phase. -/
inductive Interference where
  | unlink (localId : String)
  | link (localId remoteId : String)
  | putLocal (e : Entity)
  | removeLocal (id : String)

def interferenceOf (j : Json) : Except Failure Interference :=
  match j with
  | .obj [("unlink", .str l)] => .ok (.unlink l)
  | .obj [("link", .arr [.str l, .str r])] => .ok (.link l r)
  | .obj [("put_local", e)] => Interference.putLocal <$> decodeAs Entity.shape Entity.ofChecked e
  | .obj [("remove_local", .str id)] => .ok (.removeLocal id)
  | _ => .error (badInput "unknown on_apply action")

def Interference.apply (w : World) : Interference → World
  | .unlink l => { w with store := (Links.unlink w.store l).1 }
  | .link l r => { w with store := (Links.link w.store l r w.wallClock).1 }
  | .putLocal e => { w with store := w.store.saveEntity e }
  | .removeLocal id => { w with store := (w.store.removeEntity id).2 }

/-- What a run step gives: the report or error, the events and the final phase. -/
structure RunOutcome where
  report : Except Error SyncReport
  events : List Event
  phase : Phase
  inspect : Option Json

def syncReportJson (r : SyncReport) : Json :=
  Json.mkObj [("kind", .str r.kind.name), ("endpoint", .str r.endpoint), ("dry_run", .bool r.dryRun),
    ("entities", .arr (r.entities.map EntityReport.toJson)),
    ("skipped_unlinked", Json.ofNat r.skippedUnlinked), ("total_applied", Json.ofNat r.totalApplied),
    ("has_failures", .bool r.hasFailures),
    ("applied_local_remote", Json.mkObj (r.entities.map fun e =>
      (e.remoteId, .arr [Json.ofNat e.appliedLocal, Json.ofNat e.appliedRemote])))]

def RunOutcome.toJson (o : RunOutcome) : Json :=
  let phases := o.events.filterMap fun
    | .phaseChanged p => some (Json.str p.name)
    | _ => none
  let others := o.events.filter fun
    | .phaseChanged _ => false
    | _ => true
  Json.mkObj ([("report", resultJson syncReportJson o.report), ("phase", .str o.phase.name),
    ("phases", .arr phases), ("events", .arr (others.map Event.toJson))] ++
    (o.inspect.map fun j => [("inspect", j)]).getD [])

def inspectJson (r : Runner) (w : World) : Json :=
  let links := ((Links.list w.store).toOption.getD []).map fun l =>
    Json.mkObj [("local_id", .str l.localId), ("remote_id", .str l.remoteId)]
  Json.mkObj [("options", r.options.toJson), ("cache_len", Json.ofNat (w.store.keys nsCache).length),
    ("cache_ttl_ms", Json.ofNat r.ttl), ("links", .arr links), ("phase_before", .str w.phase.name),
    ("cancelled", .bool w.cancelled)]

namespace Session

def give (s : Session) (e : Entity) : Session := { s with given := s.given.insert e.id e.updatedAt }

/-- The collection of a run step: a kind (default issue), with its endpoint and parameters
overridden when given. -/
def collectionOf (step : Json) : Except Failure Collection := do
  let kind ← match step.get? "kind" with
    | some (.str k) => orFail "UnknownKind" (Kind.parse k)
    | _ => pure .issue
  let c := Collection.ofKind kind
  let endpoint := (step.getStr? "endpoint").getD c.endpoint
  let params := ((step.get? "params").bind Json.members?).getD c.params
  return { c with endpoint, params }

/-- A run step: over the collection, or over chosen local items when `ids` are given. -/
def runStep (s : Session) (step : Json) (ids : Option (List String)) :
    Except Failure (Session × RunOutcome) := do
  let collection ← collectionOf step
  let options ← syncOptionsOf (mergeOptions s.options (step.get? "options"))
  let actions ← (← stepsOf step "on_apply").mapM interferenceOf
  let runner : Runner :=
    { options, perPage := s.perPage, maxPages := s.maxPages, ttl := s.ttl
      send := World.sendScripted, onApply := fun w => actions.foldl Interference.apply w }
  let cancelled := flag step "cancel" && !flag step "reset"
  let w : World :=
    { s.world with events := [], phase := .init, cancelled
                   commitsBeforeCancel := (optional step "cancel_after").bind Json.asNat? }
  let inspect := if flag step "inspect" then some (inspectJson runner w) else none
  let act := match ids with
    | some ids => SyncM.syncEntities runner collection ids
    | none => SyncM.run runner collection
  let (report, w) := Id.run (StateT.run act w)
  let reachedApply := w.events.any fun
    | .phaseChanged .apply => true
    | _ => false
  let given := if reachedApply then
      actions.foldl (fun g a => match a with
        | .putLocal e => g.insert e.id e.updatedAt
        | _ => g) s.given
    else s.given
  return ({ s with world := w, given }, { report, events := w.events, phase := w.phase, inspect })

def withStore (s : Session) (st : Store) : Session := { s with world := { s.world with store := st } }

def withTracker (s : Session) (t : Remote.Tracker) : Session :=
  { s with world := { s.world with tracker := t } }

def withFaults (s : Session) (f : Faults → Faults) : Session :=
  let st := s.world.store
  s.withStore { st with faults := f st.faults }

/-- Run a store action with the cache's clock; its events are dropped. -/
def cacheAct {α : Type} (s : Session) (act : CacheClock → StoreAct α) : Session × Except Error α :=
  let (r, st, _) := (act { ttl := s.ttl, now := s.world.clock }).run s.world.store
  (s.withStore st, r)

def endpointOf (step : Json) : String := (step.getStr? "endpoint").getD "issues"

def switchOf (step : Json) : Bool :=
  match step.get? "on" with
  | some (.bool b) => b
  | _ => true

def editStep (s : Session) (step : Json) (name : String) : Except Failure (Session × Answer) := do
  let st := s.world.store
  let t := s.world.tracker
  match name with
  | "link" =>
    let (st', r) := Links.link st (← needText step "local") (← needText step "remote") s.world.wallClock
    return (s.withStore st', match r with
      | .ok () => .ok .null
      | .error e => .error (linkFailure e))
  | "unlink" =>
    let (st', r) := Links.unlink st (← needText step "local")
    return (s.withStore st', match r with
      | .ok l => .ok (Json.mkObj [("local_id", .str l.localId), ("remote_id", .str l.remoteId)])
      | .error e => .error (linkFailure e))
  | "put_local" =>
    let e ← decodeAs Entity.shape Entity.ofChecked (← need step "entity")
    match st.save e with
    | .ok st' => return ((s.withStore st').give e, .ok .null)
    | .error err => return (s, .error (failureOf err))
  | "edit_local" =>
    let id ← needText step "id"
    let patch := ((step.get? "set").bind Json.members?).getD []
    match st.load id with
    | .error err => return (s, .error (failureOf err))
    | .ok none => return (s, .error (failureOf (.entityNotFound id)))
    | .ok (some old) =>
      let merged := patch.foldl (fun j (k, v) => j.set k v) old.toJson
      match Entity.shape.check merged with
      | .error msg => return (s, .error (decodeFailure msg))
      | .ok checked =>
        let e := Entity.ofChecked checked
        let s := if patch.any (·.1 == "updated_at") then s.give e else s
        match st.save e with
        | .ok st' => return (s.withStore st', .ok .null)
        | .error err => return (s, .error (failureOf err))
  | "remove_local" =>
    let (b, st') := st.removeEntity (← needText step "id")
    return (s.withStore st', .ok (.bool b))
  | "add_remote" =>
    return (s.withTracker (t.addItem (endpointOf step) (← need step "item")), .ok .null)
  | "edit_remote" =>
    let (t', n) := t.edit (endpointOf step) (← needText step "id") (← need step "patch")
    return (s.withTracker t', .ok (Json.ofNat n))
  | "remove_remote" =>
    let (t', n) := t.removeItems (endpointOf step) (← needText step "id")
    return (s.withTracker t', .ok (Json.ofNat n))
  | "script_page" => return (s.withTracker (t.script (← scriptedPageOf step)), .ok .null)
  | "fail" => return (s.withTracker (t.plant (← plantedOf step)), .ok .null)
  | "patch_mode" =>
    let path ← needText step "path"
    let modeName ← needText step "mode"
    match Remote.PatchMode.ofName? modeName with
    | some m => return (s.withTracker { t with patchModes := t.patchModes.insert path m }, .ok .null)
    | none => throw (badInput ("unknown patch mode " ++ modeName))
  | "clear_failures" => return (s.withTracker t.clearFailures, .ok .null)
  | "fail_batches" => return (s.withFaults ({ · with failBatches := switchOf step }), .ok .null)
  | "fail_loads" => return (s.withFaults ({ · with failLoads := switchOf step }), .ok .null)
  | "fail_deletes" => return (s.withFaults ({ · with failDeletes := switchOf step }), .ok .null)
  | "fail_saves" =>
    let after := ((optional step "after").bind Json.asNat?).getD 0
    return (s.withFaults ({ · with failSaves := if switchOf step then some after else none }), .ok .null)
  | "advance" =>
    let ms := ((optional step "ms").bind Json.asNat?).getD 0
    return ({ s with world := { s.world with clock := s.world.clock + ms } }, .ok .null)
  | "invalidate" =>
    let (s', r) := s.cacheAct fun _ => Cache.invalidate (step.getStr? "id")
    return (s', (r.map Json.ofNat).mapError failureOf)
  | "cache_summary" =>
    let (s', r) := s.cacheAct Cache.summary
    return (s', (r.map fun c => Json.mkObj [("total", Json.ofNat c.total),
      ("fresh", Json.ofNat c.fresh), ("stale", Json.ofNat c.stale)]).mapError failureOf)
  | "conflicts" =>
    return (s, match SyncState.listConflicts st with
      | .ok sets => .ok (.arr (sets.map fun c => Json.mkObj [("local_id", .str c.localId),
          ("remote_id", .str c.remoteId), ("conflicts", .arr (c.conflicts.map ConflictRecord.toJson))]))
      | .error e => .error (failureOf e))
  | "base" =>
    return (s, match SyncState.loadBase st (← needText step "remote_id") with
      | .ok b => .ok ((b.map fun b => Json.mkObj [("snapshot", b.snapshot.toJson),
          ("fingerprint", .str b.fingerprint)]).getD .null)
      | .error e => .error (failureOf e))
  | "raw_put" =>
    return (s.withStore (st.put (← needText step "ns") (← needText step "key") (← needText step "value")),
      .ok .null)
  | "audit" => return (s, auditStep st step)
  | other => throw (badInput ("unknown scenario step " ++ other))

/-- The local items as shown: by id, with an `updated_at` the scenario did not give shown as
`<touched>`. -/
def localJson (s : Session) : List Json :=
  s.world.store.entities.values.map fun e =>
    if s.given.get? e.id == some e.updatedAt then e.toJson
    else e.toJson.set "updated_at" (.str "<touched>")

/-- The state after a step: local items, tracker collections and the sync state. -/
def stateJson (s : Session) : Json :=
  let st := s.world.store
  Json.mkObj [("local", .arr s.localJson),
    ("remote", Json.mkObj (s.world.tracker.collections.entries.map fun (k, v) => (k, .arr v))),
    ("kv", dumpJson { st with kv := Table.ofList (st.kv.entries.filter fun (ns, _) =>
      syncNamespaces.contains ns) })]

end Session

def isLowerHex (c : Char) : Bool := c.isDigit || ('a' ≤ c && c ≤ 'f')

/-- Whether a text has the shape of a minted local id: a kind's prefix, `_`, and twelve
lower-case hex digits. -/
def isMintedShape (id : String) : Bool :=
  Kind.all.any fun k =>
    let p := (k.idPrefix ++ "_").toList
    let cs := id.toList
    cs.take p.length == p && (cs.drop p.length).length == 12 && (cs.drop p.length).all isLowerHex

def addAliases (known : List String) : List (String × String) → List String → List (String × String)
  | aliases, [] => aliases
  | aliases, id :: rest =>
    if isMintedShape id && !known.contains id && !aliases.any (·.1 == id) then
      addAliases known (aliases ++ [(id, "@new" ++ toString (aliases.length + 1))]) rest
    else addAliases known aliases rest

def applyAliases (aliases : List (String × String)) (t : String) : String :=
  aliases.foldl (fun t (id, a) => t.replace id a) t

def sortByText (xs : List Json) : List Json :=
  xs.mergeSort fun a b => decide (Json.compact a ≤ Json.compact b)

def shownId (j : Json) : String := (j.getStr? "id").getD ""

/-- Answer one step: its result, its requests and the state after it. -/
def scenarioStep (s : Session) (step : Json) : Session × Json :=
  let logged := s.world.tracker.log.length
  let (s, result, reportIds) : Session × Json × List String :=
    match needText step "do" with
    | .error f => (s, f.toJson, [])
    | .ok name =>
      let ran := match name with
        | "run" => some (s.runStep step none)
        | "sync_entities" => some (do s.runStep step (some ((← needList step "ids").filterMap Json.asStr?)))
        | _ => none
      match ran with
      | some (.ok (s, o)) =>
        let ids := match o.report with
          | .ok r => r.entities.filterMap (·.localId)
          | .error _ => []
        (s, Json.mkObj [("ok", o.toJson)], ids)
      | some (.error f) => (s, f.toJson, [])
      | none =>
        match s.editStep step name with
        | .ok (s, a) => (s, stepJson a, [])
        | .error f => (s, f.toJson, [])
  let candidates := reportIds ++ s.world.store.entities.keys ++ s.world.store.keys nsLinkLocal
  let s := { s with aliases := addAliases s.known s.aliases candidates }
  let requests := (s.world.tracker.log.drop logged).map sentJson
  let aliased := Json.mapTexts (applyAliases s.aliases)
  let result := aliased result
  let result := match result.get? "ok" with
    | some ok => match ok.get? "events", ok.get? "report" with
      | some (.arr es), some _ => result.set "ok" (ok.set "events" (.arr (sortByText es)))
      | _, _ => result
    | none => result
  let state := aliased s.stateJson
  let state := match state.get? "local" with
    | some (.arr ls) => state.set "local" (.arr (ls.mergeSort fun a b => decide (shownId a ≤ shownId b)))
    | _ => state
  (s, Json.mkObj [("result", result), ("requests", .arr (requests.map aliased)), ("state", state)])

/-- `scenario {...}`: set up a tracker, a store and a clock, then answer each step. -/
def scenario (req : Json) : Answer := do
  let store ← storeOf req
  let tracker ← trackerOf req
  let locals ← (← stepsOf req "local").mapM (decodeAs Entity.shape Entity.ofChecked)
  let store := locals.foldl Store.saveEntity store
  let wallClock : Int := 1767225600000
  let pairs ← (← stepsOf req "links").mapM fun
    | .arr [.str l, .str r] => pure (l, r)
    | _ => throw (badInput "links must be pairs of ids")
  let (store, setup) := pairs.foldl (fun (st, acc) (l, r) =>
    let (st, res) := Links.link st l r wallClock
    (st, acc ++ [match res with
      | .ok () => Json.mkObj [("ok", .null)]
      | .error e => (linkFailure e).toJson])) (store, [])
  let world : World :=
    { store, tracker, clock := ((optional req "clock_ms").map Entity.intOf).getD 1700000000000
      wallClock }
  let session : Session :=
    { world, options := optional req "options"
      perPage := ((optional req "per_page").bind Json.asNat?).getD defaultPerPage
      maxPages := ((optional req "max_pages").bind Json.asNat?).getD defaultMaxPages
      ttl := ((optional req "cache_ttl_ms").bind Json.asNat?).getD 300000
      given := Table.ofList (locals.map fun e => (e.id, e.updatedAt))
      known := req.texts }
  let steps ← stepsOf req "steps"
  let (_, answers) := runSteps scenarioStep session steps
  return Json.mkObj [("setup", .arr setup), ("steps", .arr answers)]

end TrackerSync.Requests
