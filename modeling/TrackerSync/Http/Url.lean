import TrackerSync.Http.Percent

/-!
URLs of special schemes, read as the URL Standard reads them: host lower-cased or read as IPv4,
default ports dropped, dot segments resolved, the rest percent-encoded.
-/

namespace TrackerSync.Http

/-- A URL with a host. -/
structure Url where
  scheme : String
  host : String
  port : Option Nat
  /-- The path segments, percent-encoded; never empty. -/
  path : List String
  query : Option String
  fragment : Option String
  deriving BEq, Repr, Inhabited

/-- Why a text is not a URL with a host. -/
inductive UrlProblem where
  /-- The text cannot be read as a URL at all. -/
  | unreadable
  /-- The text is a URL, written as shown, that has no host. -/
  | noHost (shown : String)
  deriving BEq, Repr

namespace Url

def defaultPort : String → Option Nat
  | "http" | "ws" => some 80
  | "https" | "wss" => some 443
  | "ftp" => some 21
  | _ => none

def isSpecial (scheme : String) : Bool :=
  ["http", "https", "ws", "wss", "ftp", "file"].contains scheme

def isForbiddenHostChar (c : Char) : Bool :=
  c.toNat ≤ 0x20 || c.toNat == 0x7F || "#%/:<>?@[\\]^|".toList.contains c

/-- A number of an IPv4 address part: `0x` hex, octal with a leading zero, or decimal. -/
def ipv4Number? (part : String) : Option Nat :=
  let cs := part.toList
  let digits (base : Nat) (ds : List Char) : Option Nat :=
    ds.foldl (fun acc d => acc.bind fun n =>
      (hexValue? d).bind fun v => if v < base then some (n * base + v) else none) (some 0)
  match cs with
  | '0' :: x :: rest => if x == 'x' || x == 'X' then digits 16 rest else digits 8 (x :: rest)
  | [] => none
  | _ => digits 10 cs

/-- Whether a host's last label reads as a number, so that the host must be an IPv4 address. -/
def endsInNumber (host : String) : Bool :=
  let parts := host.splitOn "."
  let parts := if parts.length > 1 && parts.getLast? == some "" then parts.dropLast else parts
  match parts.getLast? with
  | some last =>
    (!last.isEmpty && last.all Char.isDigit) ||
      (match last.toList with
        | '0' :: x :: rest => (x == 'x' || x == 'X') && rest.all fun c => (hexValue? c).isSome
        | _ => false)
  | none => false

def ipv4? (host : String) : Option String := do
  let parts := host.splitOn "."
  let parts := if parts.length > 1 && parts.getLast? == some "" then parts.dropLast else parts
  if parts.length > 4 then none
  let numbers ← parts.mapM ipv4Number?
  let front := numbers.dropLast
  let last ← numbers.getLast?
  if front.any (· > 255) then none
  if last ≥ Nat.pow 256 (5 - numbers.length) then none
  let value := front.zipIdx.foldl (fun acc (n, i) => acc + n * Nat.pow 256 (3 - i)) 0 + last
  return ".".intercalate ((List.range 4).map fun i => toString (value / Nat.pow 256 (3 - i) % 256))

/-- A host as it is kept: decoded, lower-cased, checked, and as an IPv4 address when it ends in
a number. -/
def parseHost (raw : String) : Option String :=
  let host := String.ofList ((percentDecode raw).toList.map Char.toLower)
  if host.isEmpty || host.any isForbiddenHostChar then none
  else if endsInNumber host then ipv4? host
  else some host

def parsePort (raw : String) : Option (Option Nat) :=
  if raw.isEmpty then some none
  else if raw.all Char.isDigit then
    let n := raw.toNat!
    if n < 65536 then some (some n) else none
  else none

def isSingleDot (s : String) : Bool := s == "." || s.toLower == "%2e"

def isDoubleDot (s : String) : Bool :=
  [("..": String), ".%2e", "%2e.", "%2e%2e"].contains s.toLower

/-- Add raw path segments to a path: dots resolved, the rest percent-encoded. -/
def addSegments : List String → List String → List String
  | acc, [] => acc
  | acc, [s] =>
    if isDoubleDot s then acc.dropLast ++ [""]
    else if isSingleDot s then acc ++ [""]
    else acc ++ [encodeWith pathSet s]
  | acc, s :: rest =>
    if isDoubleDot s then addSegments acc.dropLast rest
    else if isSingleDot s then addSegments acc rest
    else addSegments (acc ++ [encodeWith pathSet s]) rest

/-- The characters of a text up to the first that `stop` selects, and the rest from there. -/
def cutAt (stop : Char → Bool) (cs : List Char) : List Char × List Char :=
  (cs.takeWhile (fun c => !stop c), cs.dropWhile (fun c => !stop c))

def splitWhere (sep : Char → Bool) (cs : List Char) : List String :=
  let (pieces, current) := cs.foldl (fun (pieces, current) c =>
    if sep c then (pieces ++ [String.ofList current], []) else (pieces, current ++ [c])) ([], [])
  pieces ++ [String.ofList current]

def parse (input : String) : Except UrlProblem Url := do
  let trimmed := (input.toList.dropWhile (·.toNat ≤ 0x20)).reverse.dropWhile (·.toNat ≤ 0x20)
  let cs := trimmed.reverse.filter fun c => c != '\t' && c != '\n' && c != '\r'
  let (schemeChars, afterScheme) := cutAt (· == ':') cs
  let validScheme := match schemeChars with
    | c :: rest => c.isAlpha && c.toNat < 128 &&
        rest.all fun d => (d.isAlphanum && d.toNat < 128) || "+-.".toList.contains d
    | [] => false
  if !validScheme || afterScheme.isEmpty then throw .unreadable
  let scheme := String.ofList (schemeChars.map Char.toLower)
  let rest := afterScheme.drop 1
  let special := isSpecial scheme
  if !special && !(rest.take 2 == ['/', '/']) then throw (.noHost (String.ofList cs))
  let isSlash (c : Char) : Bool := c == '/' || (special && c == '\\')
  let rest := if special then rest.dropWhile isSlash else rest.drop 2
  let (authority, rest) := cutAt (fun c => isSlash c || c == '?' || c == '#') rest
  let hostPort := (authority.reverse.takeWhile (· != '@')).reverse
  let (hostChars, portChars) :=
    if hostPort.head? == some '[' then
      let (h, p) := cutAt (· == ']') hostPort
      (h ++ p.take 1, p.drop 1)
    else
      let rev := hostPort.reverse
      if rev.contains ':' then ((rev.dropWhile (· != ':')).drop 1 |>.reverse, rev.takeWhile (· != ':') |>.reverse)
      else (hostPort, [])
  let portChars := if portChars.head? == some ':' then portChars.drop 1 else portChars
  if scheme == "file" then throw (.noHost (String.ofList cs))
  let host ← match parseHost (String.ofList hostChars) with
    | some h => pure h
    | none => throw .unreadable
  let port ← match parsePort (String.ofList portChars) with
    | some p => pure (if p == defaultPort scheme then none else p)
    | none => throw .unreadable
  let (pathChars, rest) := cutAt (fun c => c == '?' || c == '#') rest
  let (queryChars, fragmentChars) := cutAt (· == '#') rest
  let segments := match pathChars with
    | [] => []
    | _ :: more => splitWhere isSlash more
  let path := addSegments [] segments
  return { scheme, host, port, path := if path.isEmpty then [""] else path
           query := (queryChars.head?).map fun _ => encodeWith querySet (String.ofList (queryChars.drop 1))
           fragment := (fragmentChars.head?).map fun _ => encodeWith pathSet (String.ofList (fragmentChars.drop 1)) }

def authority (u : Url) : String :=
  u.host ++ (u.port.map fun p => ":" ++ toString p).getD ""

def target (u : Url) : String :=
  "/" ++ "/".intercalate u.path ++ (u.query.map ("?" ++ ·)).getD ""

def text (u : Url) : String :=
  u.scheme ++ "://" ++ u.authority ++ u.target ++ (u.fragment.map ("#" ++ ·)).getD ""

/-- The URL with form pairs added to its query (a query left empty is dropped). -/
def withPairs (u : Url) (pairs : List (String × String)) : Url :=
  if pairs.isEmpty then
    { u with query := u.query.bind fun q => if q.isEmpty then none else some q }
  else
    let added := formEncodePairs pairs
    { u with query := some (match u.query with
      | some q => if q.isEmpty then added else q ++ "&" ++ added
      | none => added) }

end Url

end TrackerSync.Http
