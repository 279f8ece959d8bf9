import TrackerSync.Requests.Vocabulary
import TrackerSync.Requests.Snapshots
import TrackerSync.Requests.Normalizing
import TrackerSync.Requests.Reports
import TrackerSync.Requests.Remote
import TrackerSync.Requests.Scenario
import TrackerSync.Requests.Http
import TrackerSync.Requests.Cli
import TrackerSync.Text.Blank

/-!
The line interface: one request per line, one answer per request.
-/

namespace TrackerSync.Requests

def answer (req : Json) : Answer := do
  match ← needText req "op" with
  | "status" => status req
  | "levenshtein" => levenshtein req
  | "kind" => kind req
  | "seed_policy" => seedPolicy req
  | "labels" => labels req
  | "method" => method req
  | "snapshot" => snapshot req
  | "snapshot_set" => snapshotSet req
  | "field_value" => fieldValue req
  | "detect" => detect req
  | "timestamp" => timestamp req
  | "normalize" => normalize req
  | "normalize_local" => normalizeLocal req
  | "kv" => kv req
  | "links" => links req
  | "cache" => cache req
  | "memory_local" => memoryLocal req
  | "report" => report req
  | "error" => error req
  | "settings" => settings req
  | "fetch" => fetch req
  | "scenario" => scenario req
  | "http" => http req
  | "cli" => cli req
  | op => throw (badInput ("unknown op " ++ op))

/-- The answer to one line of input, or nothing for a blank line. -/
def respond (line : String) : Option String :=
  if Text.isBlankText line then none
  else
    some <| Json.compact <| match Json.parse line with
      | .ok req => (answer req).toJson
      | .error e => (badInput ("invalid JSON line: " ++ e.text)).toJson

end TrackerSync.Requests
