import TrackerSync.Requests.Normalizing
import TrackerSync.Sync.Links
import TrackerSync.Sync.Cache

/-!
Requests on the stores: key-value operations, the link table, the cache and the local items.
-/

namespace TrackerSync.Requests

def failureOf (e : Error) : Failure := { kind := e.kind, message := e.message }

def linkFailure (e : LinkError) : Failure := { kind := "Link." ++ e.kind, message := e.message }

/-- The wall-clock keys left out of stored objects when they are shown. -/
def wallClockKeys : List String := ["linked_at", "detected_at"]

def storedJson (raw : String) : Json :=
  match Json.parse raw with
  | .ok (.obj ms) => Json.mkObj [("json", .obj (ms.filter fun m => !wallClockKeys.contains m.1))]
  | .ok v => Json.mkObj [("json", v)]
  | .error _ => Json.mkObj [("raw", .str raw)]

def dumpJson (s : Store) : Json :=
  Json.mkObj (s.kv.entries.filterMap fun (ns, t) =>
    if t.isEmpty then none
    else some (ns, Json.mkObj (t.entries.map fun (k, v) => (k, storedJson v))))

def writeJson : Write → Json
  | .put ns k v => Json.mkObj [("put", .arr [.str ns, .str k, storedJson v])]
  | .delete ns k => Json.mkObj [("delete", .arr [.str ns, .str k])]
  | .require ns k v => Json.mkObj [("require", .arr [.str ns, .str k, (v.map storedJson).getD .null])]

/-- A write from its request form `{"put":[ns,key,v]}`, `{"delete":[ns,key]}` or
`{"require":[ns,key,v|null]}`. -/
def writeOf (j : Json) : Except Failure Write :=
  match j with
  | .obj [("put", .arr [.str ns, .str k, .str v])] => .ok (.put ns k v)
  | .obj [("delete", .arr [.str ns, .str k])] => .ok (.delete ns k)
  | .obj [("require", .arr [.str ns, .str k, .str v])] => .ok (.require ns k (some v))
  | .obj [("require", .arr [.str ns, .str k, .null])] => .ok (.require ns k none)
  | _ => .error (badInput "write must be put/delete/require")

def writesOf (req : Json) (name : String) : Except Failure (List Write) := do
  (← needList req name).mapM writeOf

def auditJson (r : AuditRow) : Json :=
  Json.mkObj [("entity_type", .str r.entityType), ("entity_id", .str r.entityId),
    ("event_type", .str r.kind.name), ("actor", .str r.actor), ("comment", Json.ofOption r.comment),
    ("old_value", (r.oldValue.map storedJson).getD .null),
    ("new_value", (r.newValue.map storedJson).getD .null)]

/-- A store of the backend a request names: in memory (the default) or durable. -/
def storeOf (req : Json) : Except Failure Store :=
  match req.get? "backend" with
  | none | some .null | some (.str "memory") => .ok {}
  | some (.str "sqlite") => .ok { durable := true }
  | some (.str b) => .error (badInput ("unknown backend " ++ b))
  | some _ => .error (badInput "field backend must be a string")

/-- The audit rows a step asks for: `{type, id, limit?}`, from a durable store only. -/
def auditStep (s : Store) (op : Json) : Answer := do
  if !s.durable then throw (badInput "audit needs the sqlite backend")
  let ty ← needText op "type"
  let id ← needText op "id"
  let limit := (op.get? "limit").bind Json.asNat?
  return .arr ((s.auditOf ty id limit).map auditJson)

def stepJson (a : Answer) : Json :=
  match a with
  | .ok v => Json.mkObj [("ok", v)]
  | .error f => f.toJson

def runSteps {σ : Type} (step : σ → Json → σ × Json) : σ → List Json → σ × List Json
  | s, [] => (s, [])
  | s, op :: ops =>
    let (s, j) := step s op
    let (s, js) := runSteps step s ops
    (s, j :: js)

def stepsOf (req : Json) (name : String) : Except Failure (List Json) :=
  match req.get? name with
  | none | some .null => .ok []
  | some (.arr items) => .ok items
  | some _ => .error (badInput ("field " ++ name ++ " must be an array"))

/-- Run a step whose request may be unreadable (the state stays) or whose action may fail
after changing the state. -/
def settle {σ : Type} (s : σ) : Except Failure (σ × Answer) → σ × Answer
  | .ok r => r
  | .error f => (s, .error f)

/-- A store failure as the answer of a step that keeps the store it reached. -/
def batchAnswer (r : Store × Option Error) : Store × Answer :=
  match r with
  | (s, none) => (s, .ok .null)
  | (s, some e) => (s, .error (failureOf e))

def kvStep (s : Store) (op : Json) : Except Failure (Store × Answer) := do
  match ← needText op "do" with
  | "get" => return (s, .ok (Json.ofOption (s.get (← needText op "ns") (← needText op "key"))))
  | "put" => return (s.put (← needText op "ns") (← needText op "key") (← needText op "value"), .ok .null)
  | "delete" =>
    let (b, s') := s.remove (← needText op "ns") (← needText op "key")
    return (s', .ok (.bool b))
  | "keys" => return (s, .ok (Json.ofStrings (s.keys (← needText op "ns"))))
  | "clear" =>
    let (n, s') := s.clear (← needText op "ns")
    return (s', .ok (Json.ofNat n))
  | "batch" => return batchAnswer (s.writeBatch (← writesOf op "writes"))
  | "dump" => return (s, .ok (dumpJson s))
  | "audit" => return (s, auditStep s op)
  | "conflict_of" =>
    let ws ← writesOf op "writes"
    return (s, .ok (.arr (ws.map fun w => (failureOf w.conflict).toJson)))
  | other => throw (badInput ("unknown kv op " ++ other))

/-- `kv {backend?, ops}`: steps on a key-value store and the final dump. -/
def kv (req : Json) : Answer := do
  let s ← storeOf req
  let ops ← stepsOf req "ops"
  let (s, steps) := runSteps (fun s op =>
    let (s', a) := settle s (kvStep s op)
    (s', stepJson a)) s ops
  return Json.mkObj [("steps", .arr steps), ("final", dumpJson s)]

/-- The time stamped on links made through requests (it is never shown). -/
def linkClock : Int := 1700000000000

def linkAnswer {α : Type} (render : α → Json) (r : Store × Except LinkError α) : Store × Answer :=
  match r with
  | (s, .ok a) => (s, .ok (render a))
  | (s, .error e) => (s, .error (linkFailure e))

def linkJson (r : LinkRecord) : Json :=
  Json.mkObj [("local_id", .str r.localId), ("remote_id", .str r.remoteId)]

def linksStep (s : Store) (op : Json) : Except Failure (Store × Answer) := do
  let pure' (r : Except LinkError Json) : Store × Answer := (s, r.mapError linkFailure)
  match ← needText op "do" with
  | "link" => return linkAnswer (fun _ => .null) (Links.link s (← needText op "local") (← needText op "remote") linkClock)
  | "unlink" => return linkAnswer linkJson (Links.unlink s (← needText op "local"))
  | "remote_for" => return pure' ((Links.remoteFor s (← needText op "local")).map Json.ofOption)
  | "local_for" => return pure' ((Links.localFor s (← needText op "remote")).map Json.ofOption)
  | "list" => return pure' ((Links.list s).map fun rs => .arr (rs.map linkJson))
  | "link_ops" =>
    return pure' ((Links.linkOps s (← needText op "local") (← needText op "remote") linkClock).map
      fun ws => .arr (ws.map writeJson))
  | "unlink_ops" => return pure' ((Links.unlinkOps s (← needText op "local")).map fun ws => .arr (ws.map writeJson))
  | "commit_with" =>
    let extra ← writesOf op "extra"
    return linkAnswer (fun _ => .null)
      (Links.commitWith s (← needText op "local") (← needText op "remote") extra linkClock)
  | "raw_put" => return (s.put (← needText op "ns") (← needText op "key") (← needText op "value"), .ok .null)
  | "raw_delete" =>
    let (b, s') := s.remove (← needText op "ns") (← needText op "key")
    return (s', .ok (.bool b))
  | "dump" => return (s, .ok (dumpJson s))
  | "audit" => return (s, auditStep s op)
  | "interfere" =>
    let w ← writeOf (← need op "write")
    return ({ s with faults := { s.faults with interference := some w } }, .ok .null)
  | "fail_batches" =>
    let on := match op.get? "on" with
      | some (.bool b) => b
      | _ => true
    return ({ s with faults := { s.faults with failBatches := on } }, .ok .null)
  | other => throw (badInput ("unknown links op " ++ other))

/-- `links {backend?, ops}`: steps on the link table and the final dump. -/
def links (req : Json) : Answer := do
  let s ← storeOf req
  let ops ← stepsOf req "ops"
  let (s, steps) := runSteps (fun s op =>
    let (s', a) := settle s (linksStep s op)
    (s', stepJson a)) s ops
  return Json.mkObj [("steps", .arr steps), ("final", dumpJson s)]

def cacheEntryJson (e : CacheEntry) : Json :=
  Json.mkObj [("remote_id", .str e.remoteId), ("snapshot", e.snapshot.toJson),
    ("fetched_at", Json.ofInt e.fetchedAt)]

/-- The state of the cache requests: the store, the clock and the time to live. -/
structure CacheDesk where
  store : Store
  clock : CacheClock

/-- Run a cache action on the desk's store; the events it emitted and its answer. -/
def CacheDesk.act {α : Type} (d : CacheDesk) (render : α → Json) (a : StoreAct α) :
    CacheDesk × Answer × List Event :=
  let (r, s, es) := a.run d.store
  ({ d with store := s }, r.map render |>.mapError failureOf, es)

def cacheStep (d : CacheDesk) (op : Json) : Except Failure (CacheDesk × Answer × List Event) := do
  let c := d.clock
  match ← needText op "do" with
  | "put" =>
    let id ← needText op "id"
    let snap ← needSnapshot op "snapshot"
    return d.act (fun _ => .null) (Cache.put c id snap)
  | "get" => return d.act (fun o => (o.map Snapshot.toJson).getD .null) (Cache.get c (← needText op "id"))
  | "fresh" => return d.act .bool (Cache.isFresh c (← needText op "id"))
  | "invalidate" =>
    let id := (optional op "id").bind Json.asStr?
    return d.act Json.ofNat (Cache.invalidate id)
  | "entries" => return d.act (fun es => .arr (es.map cacheEntryJson)) Cache.entries
  | "len" => return d.act Json.ofNat Cache.size
  | "is_empty" => return d.act (fun n => .bool (n == 0)) Cache.size
  | "summary" =>
    return d.act (fun (m : CacheSummary) => Json.mkObj [("total", Json.ofNat m.total),
      ("fresh", Json.ofNat m.fresh), ("stale", Json.ofNat m.stale)]) (Cache.summary c)
  | "ttl" => return (d, .ok (Json.ofNat c.ttl), [])
  | "advance" =>
    let ms := ((op.get? "ms").bind Json.asNat?).getD 0
    return ({ d with clock := { c with now := c.now + ms } }, .ok .null, [])
  | "raw_put" => return ({ d with store := d.store.put nsCache (← needText op "id") (← needText op "value") }, .ok .null, [])
  | other => throw (badInput ("unknown cache op " ++ other))

/-- The JSON of a cache step: its answer with the events it emitted. -/
def cacheStepJson (a : Answer) (es : List Event) : Json :=
  (stepJson a).set "events" (eventsJson es)

/-- `cache {backend?, ttl_ms?, clock_ms?, ops}`: steps on the cache, each with its events. -/
def cache (req : Json) : Answer := do
  let s ← storeOf req
  let ops ← stepsOf req "ops"
  let ttl := ((optional req "ttl_ms").bind Json.asNat?).getD 300000
  let now : Int := match optional req "clock_ms" with
    | some j => Entity.intOf j
    | none => 1700000000000
  let (_, steps) := runSteps (fun d op =>
    match cacheStep d op with
    | .ok (d', a, es) => (d', cacheStepJson a es)
    | .error f => (d, cacheStepJson (.error f) [])) ({ store := s, clock := { ttl, now } } : CacheDesk) ops
  return Json.mkObj [("steps", .arr steps)]

def localSizeMembers (s : Store) : List (String × Json) :=
  [("len", Json.ofNat s.entities.size), ("is_empty", .bool s.entities.isEmpty)]

def localStep (s : Store) (op : Json) : Except Failure (Store × Answer) := do
  match ← needText op "do" with
  | "save" => return (s.saveEntity (← needEntity op "entity"), .ok .null)
  | "load" => return (s, .ok ((s.entities.get? (← needText op "id")).map Entity.toJson |>.getD .null))
  | "remove" =>
    let (b, s') := s.removeEntity (← needText op "id")
    return (s', .ok (.bool b))
  | "list" =>
    match Kind.parse (← needText op "kind") with
    | .ok k => return (s, .ok (.arr ((s.list k).map Entity.toJson)))
    | .error e => return (s, .error { kind := "UnknownKind", message := e })
  | other => throw (badInput ("unknown memory_local op " ++ other))

/-- `memory_local {entities?, ops}`: steps on a local store in memory, with its size after each. -/
def memoryLocal (req : Json) : Answer := do
  let seed ← (← stepsOf req "entities").mapM fun j => decodeAs Entity.shape Entity.ofChecked j
  let s : Store := seed.foldl Store.saveEntity {}
  let ops ← stepsOf req "ops"
  let (_, steps) := runSteps (fun s op =>
    let (s', a) := settle s (localStep s op)
    (s', Json.mkObj (("result", stepJson a) :: localSizeMembers s'))) s ops
  return Json.mkObj [("steps", .arr (Json.mkObj (localSizeMembers s) :: steps))]

end TrackerSync.Requests
