import TrackerSync.Http.Url
import TrackerSync.Remote.Fetch
import TrackerSync.Json.Parse
import TrackerSync.Json.Print
import TrackerSync.Text.Blank

/-!
Requests to the tracker over HTTP: what the client sends, what the tracker's server makes of
it, and what the client reads from the answer.
-/

namespace TrackerSync.Http

/-- A request as it goes over the wire. -/
structure WireRequest where
  method : Remote.Method
  /-- The path and query of the request line. -/
  target : String
  authorization : Option String
  accept : Option String
  body : Option String
  deriving Inhabited

/-- An answer as it comes over the wire. -/
structure WireResponse where
  status : Nat
  /-- The `Link` header lines. -/
  links : List String
  body : String
  deriving Inhabited

def statusText (code : Nat) : String :=
  toString code ++ match code with
    | 401 => " Unauthorized"
    | 403 => " Forbidden"
    | _ => ""

/-- Whether a character can stand in a header value that is read: a tab or visible ASCII. -/
def isHeaderChar (c : Char) : Bool := c == '\t' || (0x20 ≤ c.toNat && c.toNat ≤ 0x7E)

/-- Whether the value of a `rel` parameter announces a next page: with quotes trimmed at both
ends, it has a blank-separated word `next` in any ASCII case. -/
def relValueListsNext (value : List Char) : Bool :=
  let unquoted := ((value.dropWhile (· == '"')).reverse.dropWhile (· == '"')).reverse
  (unquoted.splitOnP Text.isBlank).any fun w => w.map Char.toLower == "next".toList

/-- Whether one parameter of a link-value announces a next page: with its blanks trimmed it is
`rel=` and a value that announces it. -/
def relListsNext (param : List Char) : Bool :=
  match ((param.dropWhile Text.isBlank).reverse.dropWhile Text.isBlank).reverse with
  | 'r' :: 'e' :: 'l' :: '=' :: value => relValueListsNext value
  | _ => false

/-- Whether a `Link` header line announces a next page: split at every comma into entries and each
entry at every semicolon, some piece after an entry's first is a parameter that announces it. A
line that is not tabs and visible ASCII is not read. -/
def linkHasNext (line : String) : Bool :=
  line.toList.all isHeaderChar &&
    (line.toList.splitOn ',').any fun entry => ((entry.splitOn ';').drop 1).any relListsNext

/-- The query pairs of parameters: nulls left out, strings as they are, other values as compact
JSON, in key order. -/
def queryPairs (params : Remote.Params) : List (String × String) :=
  params.filterMap fun (k, v) => match v with
    | .null => none
    | .str s => some (k, s)
    | other => some (k, Json.compact other)

/-- A client of the tracker at a base URL. -/
structure Client where
  base : String
  token : Option String

namespace Client

def urlText (c : Client) (endpoint : String) : String :=
  Remote.trimTrailingSlashes c.base ++ "/" ++ String.ofList (endpoint.toList.dropWhile (· == '/'))

def sendFailure (m : Remote.Method) (urlText reason : String) : Remote.Failure :=
  .transport (m.text ++ " " ++ urlText ++ " failed: " ++ reason)

/-- The URL and wire request of a call, or why it cannot be built. -/
def prepare (c : Client) (m : Remote.Method) (endpoint : String) (params : Remote.Params) :
    Except Remote.Failure (Url × WireRequest) := do
  let text := c.urlText endpoint
  let url ← match Url.parse text with
    | .ok u =>
      if u.scheme == "http" || u.scheme == "https" then pure u
      else throw (sendFailure m text ("builder error for url (" ++ u.text ++ ")"))
    | .error .unreadable => throw (sendFailure m text "builder error")
    | .error (.noHost shown) => throw (sendFailure m text ("builder error for url (" ++ shown ++ ")"))
  let (url, body) := match m with
    | .get => (url.withPairs (queryPairs params), none)
    | _ => (url.withPairs [], some (Json.compact (.obj params)))
  return (url, { method := m, target := url.target, authorization := c.token.map ("Bearer " ++ ·)
                 accept := some "application/json", body })

/-- What the client reads from the server's answer (none: the connection closed). -/
def read (c : Client) (m : Remote.Method) (endpoint : String) (url : Url) :
    Option WireResponse → Except Remote.Failure Remote.Response
  | none => .error (sendFailure m (c.urlText endpoint) ("error sending request for url (" ++ url.text ++ ")"))
  | some r =>
    if r.status == 401 || r.status == 403 then
      .error (.authentication (statusText r.status ++ " from " ++ c.urlText endpoint))
    else if r.status < 200 || r.status ≥ 300 then .error (.status r.status r.body)
    else
      let hasNext := r.links.any linkHasNext
      if Text.isBlankText r.body then .ok { body := .null, hasNext }
      else
        match Json.parse r.body with
        | .ok body => .ok { body, hasNext }
        | .error e => .error (.decode (c.urlText endpoint ++ ": " ++ e.text))

end Client

/-- A request as the server received it. -/
structure Received where
  method : Remote.Method
  /-- The decoded path. -/
  path : String
  /-- The decoded query pairs, in order. -/
  query : List (String × String)
  body : Option String
  authorization : Option String
  accept : Option String

/-- The tracker's server. -/
structure Server where
  tracker : Remote.Tracker
  /-- The token a request must carry, if any. -/
  token : Option String
  port : Nat
  /-- Requests received, oldest first. -/
  received : List Received := []

/-- A query value: digits only that fit in 64 bits become a number. -/
def queryValue (v : String) : Json :=
  if !v.isEmpty && v.all Char.isDigit && v.toNat! < Nat.pow 2 64 then Json.ofNat v.toNat! else .str v

/-- The endpoint a path names: without a leading `/api/`, else without a leading `/`. -/
def endpointOf (path : String) : String :=
  if path.startsWith "/api/" then String.ofList (path.toList.drop 5)
  else if path.startsWith "/" then String.ofList (path.toList.drop 1)
  else path

/-- The body of a successful answer: nothing for `null`, the text of `{"$raw": text}`, else
compact JSON. -/
def bodyText : Json → String
  | .null => ""
  | .obj [("$raw", .str t)] => t
  | other => Json.compact other

namespace Server

def apiBase (s : Server) : String := "http://127.0.0.1:" ++ toString s.port ++ "/api"

def reaches (s : Server) (u : Url) : Bool :=
  u.scheme == "http" && (u.host == "127.0.0.1" || u.host == "localhost") && u.port == some s.port

def handle (s : Server) (req : WireRequest) : Server × Option WireResponse :=
  let (pathText, queryText) := Url.cutAt (· == '?') req.target.toList
  let path := String.ofList pathText
  let pairs := if queryText.isEmpty then [] else formDecode (String.ofList (queryText.drop 1))
  let fromQuery := pairs.foldl (fun ps (k, v) => Obj.insert ps k (queryValue v)) []
  let params := match req.body.map Json.parse with
    | some (.ok (.obj ms)) => ms.foldl (fun ps (k, v) => Obj.insert ps k v) fromQuery
    | _ => fromQuery
  let endpoint := percentDecode (endpointOf path)
  let received : Received :=
    { method := req.method, path := percentDecode path, query := pairs, body := req.body
      authorization := req.authorization, accept := req.accept }
  let t := { s.tracker with log := s.tracker.log ++ [{ method := req.method, path := endpoint, params }] }
  let s := { s with received := s.received ++ [received] }
  match s.token with
  | some tok =>
    if req.authorization != some ("Bearer " ++ tok) then
      ({ s with tracker := t }, some { status := 401, links := [], body := "bad token" })
    else serve s t req.method endpoint params
  | none => serve s t req.method endpoint params
where
  /-- The tracker's answer on the wire. -/
  serve (s : Server) (t : Remote.Tracker) (m : Remote.Method) (endpoint : String)
      (params : Remote.Params) : Server × Option WireResponse :=
    let (t, answer) := t.respond m endpoint params
    let s := { s with tracker := t }
    match answer with
    | .ok r =>
      let page := Remote.natParam params "page"
      let scripted := match m, page with
        | .get, some p => ((t.scripted? endpoint (min p 4294967295)).bind (·.linkLines))
        | _, _ => none
      let links := match scripted with
        | some lines => lines
        | none =>
          if r.hasNext then
            ["<" ++ s.apiBase ++ "/" ++ endpoint ++ "?page=" ++ toString (page.getD 1 + 1) ++
              ">; rel=\"next\""]
          else []
      (s, some { status := 200, links, body := bodyText r.body })
    | .error (.status code message) => (s, some { status := code, links := [], body := message })
    | .error (.authentication message) => (s, some { status := 401, links := [], body := message })
    | .error (.decode _) => (s, some { status := 200, links := [], body := "\x7bnot json" })
    | .error (.transport _) => (s, none)

end Server

/-- Send one call through a client to the server: what the client reads, and the server after
it. A URL that does not reach the server fails to connect. -/
def exchange (c : Client) (s : Server) (m : Remote.Method) (endpoint : String)
    (params : Remote.Params) : Server × Except Remote.Failure Remote.Response :=
  match c.prepare m endpoint params with
  | .error e => (s, .error e)
  | .ok (url, req) =>
    if s.reaches url then
      let (s, answer) := s.handle req
      (s, c.read m endpoint url answer)
    else (s, c.read m endpoint url none)

end TrackerSync.Http
