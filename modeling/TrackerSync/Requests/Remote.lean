import TrackerSync.Requests.Reports
import TrackerSync.Remote.Fetch

/-!
Requests on the tracker side: setting up a scripted tracker, and reading from it.
-/

namespace TrackerSync.Requests

def methodOf (name : String) : Except Failure Remote.Method :=
  match Remote.Method.ofName? name with
  | some m => .ok m
  | none => .error (badInput ("unknown method " ++ name))

/-- A scripted page from its request form `{page, body, next}` or `{page, error}`, with an
optional `endpoint` (default `issues`) and `link` lines. -/
def scriptedPageOf (j : Json) : Except Failure Remote.ScriptedPage := do
  let page := ((j.get? "page").bind Json.asNat?).getD 0
  let endpoint := (j.getStr? "endpoint").getD "issues"
  let answer ← match j.get? "error" with
    | some e => .error <$> remoteFailureOf e
    | none => pure (.ok { body := (j.get? "body").getD .null, hasNext := flag j "next" })
  let linkLines := match j.get? "link" with
    | some (.str s) => some [s]
    | some (.arr items) => some (items.filterMap Json.asStr?)
    | _ => none
  return { endpoint, page, answer, linkLines }

def plantedOf (j : Json) : Except Failure Remote.Planted := do
  let method ← methodOf (← needText j "method")
  let path ← needText j "path"
  let failure ← remoteFailureOf (← need j "error")
  return { method, path, failure, allowance := (optional j "after").bind Json.asNat? }

/-- A tracker set up by a request: `remote` collections, scripted `pages`, planted `failures`
and `patch_modes`. -/
def trackerOf (req : Json) : Except Failure Remote.Tracker := do
  let collections : Table (List Json) := match req.get? "remote" with
    | some (.obj ms) => Table.ofList (ms.map fun (k, v) => (k, match v with
        | .arr items => items
        | _ => []))
    | _ => {}
  let pages ← (← stepsOf req "pages").mapM scriptedPageOf
  let planted ← (← stepsOf req "failures").mapM plantedOf
  let modes : Table Remote.PatchMode := match req.get? "patch_modes" with
    | some (.obj ms) => Table.ofList (ms.filterMap fun (k, v) =>
        (v.asStr?.bind Remote.PatchMode.ofName?).map (k, ·))
    | _ => {}
  let t : Remote.Tracker := { collections, patchModes := modes }
  let t := pages.foldl Remote.Tracker.script t
  return planted.foldl Remote.Tracker.plant t

def sentJson (s : Remote.Sent) : Json :=
  Json.mkObj [("method", .str s.method.text), ("path", .str s.path), ("params", .obj s.params)]

def remoteFailureJson (e : Remote.Failure) : Json :=
  Json.mkObj [("error", .str ("Remote." ++ e.kind)), ("message", .str e.message)]

/-- The state of reading from a scripted tracker: the tracker and the events emitted. -/
abbrev Reading := StateM (Remote.Tracker × List Event)

def sendScripted (m : Remote.Method) (path : String) (params : Remote.Params) : Reading (Except Remote.Failure Remote.Response) :=
  modifyGet fun (t, es) =>
    let (t', r) := t.request m path params
    (r, (t', es))

def emitReading (e : Event) : Reading Unit := modify fun (t, es) => (t, es ++ [e])

/-- `fetch {...}`: read a collection, or one item, from a scripted tracker. -/
def fetch (req : Json) : Answer := do
  let t ← trackerOf req
  let endpoint := (req.getStr? "endpoint").getD "issues"
  let t := match req.get? "collection" with
    | some (.arr items) =>
      let home := (req.getStr? "collection_endpoint").getD endpoint
      { t with collections := t.collections.insert home items }
    | _ => t
  let params : Remote.Params := ((req.get? "params").bind Json.members?).getD []
  let perPage := ((optional req "per_page").bind Json.asNat?).getD defaultPerPage
  let maxPages := ((optional req "max_pages").bind Json.asNat?).getD defaultMaxPages
  let (result, (t, events)) := match req.getStr? "remote_id" with
    | some id =>
      let (r, st) := (Remote.fetchOne sendScripted endpoint id).run (t, [])
      (match r with
        | .ok item => Json.mkObj [("record", item.getD .null)]
        | .error e => remoteFailureJson e, st)
    | none =>
      let (r, st) := (Remote.fetchAll sendScripted emitReading endpoint params perPage maxPages).run (t, [])
      (match r with
        | .ok items => Json.mkObj [("records", .arr items),
            ("remote_ids", .arr (items.map fun i => Json.ofOption (RawRecord.payload i).remoteId))]
        | .error e => remoteFailureJson e, st)
  return Json.mkObj [("result", result), ("events", eventsJson events),
    ("requests", .arr (t.log.map sentJson))]

end TrackerSync.Requests
