import TrackerSync.Requests.Stores
import TrackerSync.Sync.Report
import TrackerSync.Config

/-!
Requests on reports, errors and settings.
-/

namespace TrackerSync.Requests

def entityReportOf (j : Json) : Except Failure EntityReport := do
  let remoteId ← needText j "remote_id"
  let outcomeName ← needText j "outcome"
  let outcome ← match Outcome.ofName? outcomeName with
    | some o => pure o
    | none => throw (badInput ("unknown outcome " ++ outcomeName))
  let changes ← match optional j "changes" with
    | some v => decodeAs (.list FieldChange.shape) (fun c => match c with
        | .arr items => items.map FieldChange.ofChecked
        | _ => []) v
    | none => pure []
  let conflicts ← match optional j "conflicts" with
    | some v => decodeAs (.list ConflictRecord.shape) (fun c => match c with
        | .arr items => items.map ConflictRecord.ofChecked
        | _ => []) v
    | none => pure []
  return { localId := (optional j "local_id").bind Json.asStr?, remoteId, status := none, outcome,
           changes, conflicts, error := (optional j "error").bind Json.asStr? }

def report (req : Json) : Answer := do
  let entities ← (← stepsOf req "entities").mapM entityReportOf
  let r : SyncReport := { kind := .issue, endpoint := "issues", dryRun := false, entities,
                          skippedUnlinked := 0 }
  let lookup ← (← stepsOf req "lookup").mapM fun j => match j with
    | .str id => pure ((r.entity? id).map fun e =>
        Json.mkObj [("outcome", .str e.outcome.name), ("local_id", Json.ofOption e.localId)]) 
    | _ => throw (badInput "lookup ids must be strings")
  return Json.mkObj [
    ("counts", Json.mkObj (Outcome.all.map fun o =>
      (o.name, Json.mkObj [("count", Json.ofNat (r.count o)), ("writes", .bool o.writes)]))),
    ("applied", .arr (entities.map fun e => .arr [Json.ofNat e.appliedLocal, Json.ofNat e.appliedRemote])),
    ("total_applied", Json.ofNat r.totalApplied), ("has_failures", .bool r.hasFailures),
    ("conflicts", .arr (r.conflicts.map fun (e, c) =>
      Json.mkObj [("remote_id", .str e.remoteId), ("field", .str c.field.name),
        ("display", .str c.field.name)])),
    ("lookup", .arr (lookup.map fun o => o.getD .null))]

def errorOf (j : Json) : Except Failure Error := do
  let text (k : String) : Except Failure String := needText j k
  match ← needText j "kind" with
  | "not_initialized" => return .notInitialized
  | "already_initialized" => return .alreadyInitialized (← text "path")
  | "entity_not_found" => return .entityNotFound (← text "id")
  | "json" =>
    match Json.parse (← text "text") with
    | .error e => return .json e.text
    | .ok _ => throw (badInput "text must not be JSON")
  | "local_already_linked" => return .link (.localAlreadyLinked (← text "local_id") (← text "remote_id"))
  | "remote_already_linked" => return .link (.remoteAlreadyLinked (← text "remote_id") (← text "local_id"))
  | "not_linked" => return .link (.notLinked (← text "id"))
  | "link_store" => return .link (.store (← text "message"))
  | "remote" => return .remote (← remoteFailureOf (← need j "remote"))
  | "sync_authentication" => return .sync (.authentication (← text "message"))
  | "push_ignored" => return .sync (.pushIgnored (← text "remote_id") (← text "fields"))
  | "listing" => return .sync (.listing (← text "endpoint") (← remoteFailureOf (← need j "remote")))
  | "write_conflict" => return .writeConflict (← text "namespace") (← text "key")
  | "invalid_argument" => return .invalidArgument (← text "message")
  | "config" => return .config (← text "message")
  | "other" => return .other (← text "message")
  | other => throw (badInput ("unknown error kind " ++ other))

/-- `error {error}`: an error's text, code, exit status, retryability, hint and structured form. -/
def error (req : Json) : Answer := do
  let e ← errorOf (← need req "error")
  return Json.mkObj [("display", .str e.message), ("code", .str e.code.text),
    ("exit_code", Json.ofNat e.exitCode), ("retryable", .bool e.code.retryable),
    ("hint", Json.ofOption e.hint), ("structured", e.structured)]

/-- A result of the program as a JSON value or a failure object. -/
def resultJson {α : Type} (render : α → Json) : Except Error α → Json
  | .ok a => render a
  | .error e => (failureOf e).toJson

/-- `settings {settings}` or `settings {text}`: the decoded settings and what they yield. -/
def settings (req : Json) : Answer := do
  let s ← match req.get? "text" with
    | some (.str t) => (Settings.decode t).mapError fun e => decodeFailure e.text
    | _ => decodeAs Settings.shape Settings.ofChecked (← need req "settings")
  let noEnv : Env := fun _ => none
  return Json.mkObj [("settings", s.toJson), ("per_page", Json.ofNat s.pageSize),
    ("max_pages", Json.ofNat s.pageCeiling), ("cache_ttl_secs", Json.ofNat s.cacheTtl),
    ("sync_options", resultJson SyncOptions.toJson s.syncOptions),
    ("collections", Json.mkObj (Kind.all.map fun k => (k.name, (s.collection k).toJson))),
    ("run_collections", .arr (s.runCollections.map Collection.toJson)),
    ("remote_url", resultJson .str (s.trackerUrl noEnv)), ("token", Json.ofOption (s.tokenFor noEnv))]

end TrackerSync.Requests
