import TrackerSync.Requests.Remote
import TrackerSync.Http.Exchange

/-!
Requests over HTTP: calls of the tracker client against the tracker's server.
-/

namespace TrackerSync.Requests

def serverPort : Nat := 20001

def maskPort (s : String) : String :=
  s.replace ("127.0.0.1:" ++ toString serverPort) "127.0.0.1:@port"

def expandUrl (s : String) : String :=
  s.replace "@url" ("http://127.0.0.1:" ++ toString serverPort ++ "/api")

/-- How a stored or sent text is shown: as JSON when it is JSON, else as `{"raw": text}`. -/
def bodyJson (text : String) : Json :=
  match Json.parse text with
  | .ok v => v
  | .error _ => Json.mkObj [("raw", .str text)]

def receivedJson (r : Http.Received) : Json :=
  Json.mkObj [("method", .str r.method.text), ("path", .str r.path),
    ("query", .arr (r.query.map fun (k, v) => .arr [.str k, .str v])),
    ("body", (r.body.map bodyJson).getD .null), ("authorization", Json.ofOption r.authorization),
    ("accept", Json.ofOption r.accept)]

def responseJson : Except Remote.Failure Remote.Response → Json
  | .ok r => Json.mkObj [("body", r.body), ("has_next", .bool r.hasNext)]
  | .error e => Json.mkObj [("error", .str ("Remote." ++ e.kind)), ("message", .str (maskPort e.message))]

/-- One call of a request: its method, endpoint and parameters (an object, default `{}`). -/
def callOf (j : Json) : Except Failure (Remote.Method × String × Remote.Params) := do
  let m ← methodOf (← needText j "method")
  let endpoint ← needText j "endpoint"
  let params ← match optional j "params" with
    | none => pure []
    | some (.obj ms) => pure ms
    | some _ => throw (badInput "params must be an object")
  return (m, endpoint, params)

def http (req : Json) : Answer := do
  let tracker ← trackerOf req
  let calls ← (← needList req "requests").mapM callOf
  let token := req.getStr? "token"
  let clientToken := match req.get? "client_token" with
    | some (.str t) => some t
    | some _ => none
    | none => token
  let client : Http.Client := { base := expandUrl ((req.getStr? "base").getD "@url"), token := clientToken }
  let server : Http.Server := { tracker, token, port := serverPort }
  let (server, responses) := calls.foldl (fun (s, acc) (m, endpoint, params) =>
    let (s, r) := Http.exchange client s m endpoint params
    (s, acc ++ [responseJson r])) (server, [])
  return Json.mkObj [("responses", .arr responses),
    ("received", .arr (server.received.map receivedJson))]

end TrackerSync.Requests
