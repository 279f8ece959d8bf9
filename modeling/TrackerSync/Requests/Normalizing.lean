import TrackerSync.Requests.Snapshots
import TrackerSync.Normalized.Record

/-!
Requests on normalization, each answer with its events in order.
-/

namespace TrackerSync.Requests

def eventsJson (events : List Event) : Json := .arr (events.map Event.toJson)

/-- The JSON of a present time: its text, Unix milliseconds and nanoseconds into the second. -/
def instantJson (t : Time.Instant) : Json :=
  Json.mkObj [("rfc3339", .str t.text), ("millis", Json.ofInt t.millis),
    ("subsec_nanos", Json.ofNat t.nanos)]

def needEntity (req : Json) (name : String) : Except Failure Entity := do
  decodeAs Entity.shape Entity.ofChecked (← need req name)

/-- The timestamp field a request reads from its source: a JSON object, a local item, a
snapshot, or any JSON value. -/
def rawTimeOf (req : Json) (field : String) : Except Failure RawTime := do
  match req.get? "map" with
  | some (.obj m) => return RawTime.ofMember (Obj.get? m field)
  | some _ => throw (badInput "field map must be an object")
  | none =>
  if (req.get? "local").isSome then
    return RawTime.ofEntity (← needEntity req "local") field
  if (req.get? "snapshot").isSome then
    return RawTime.ofSnapshot (← needSnapshot req "snapshot") field
  match req.get? "value" with
  | some v => return RawTime.ofJson v field
  | none => throw (badInput "missing timestamp source")

def timestamp (req : Json) : Answer := do
  let field ← needText req "field"
  let raw ← rawTimeOf req field
  let (result, events) := extractTimestamp raw field
  return Json.mkObj [("result", result.toJson instantJson), ("events", eventsJson events)]

def rawRecordOf (req : Json) : Except Failure RawRecord := do
  let r ← need req "record"
  match r.get? "payload", r.get? "mapping" with
  | some p, _ => return .payload p
  | none, some (.obj m) => return .mapping m
  | none, some _ => throw (badInput "mapping must be an object")
  | none, none => throw (badInput "record needs payload or mapping")

def normalize (req : Json) : Answer := do
  let raw ← rawRecordOf req
  let (result, events) := raw.normalize
  let answer := Json.mkObj [("remote_id", Json.ofOption raw.remoteId),
    ("result", result.toJson Snapshot.toJson),
    ("fingerprint", Json.ofOption (result.toOption.map Snapshot.fingerprint)),
    ("events", eventsJson events)]
  if flag req "extras" then
    let failures := events.filter fun
      | .normalizationFailed _ => true
      | _ => false
    return answer.set "extras" (Json.mkObj [("is_present", .bool result.isPresent),
      ("event_count", Json.ofNat events.length), ("failures", Json.ofNat failures.length)])
  else return answer

def normalizeLocal (req : Json) : Answer := do
  let e ← needEntity req "entity"
  let (s, events) := e.normalize
  return Json.mkObj [("snapshot", s.toJson), ("fingerprint", .str s.fingerprint),
    ("events", eventsJson events)]

end TrackerSync.Requests
