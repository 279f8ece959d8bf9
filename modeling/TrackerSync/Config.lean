import TrackerSync.Sync.Options
import TrackerSync.Collection
import TrackerSync.Error
import TrackerSync.Json.Decode

/-!
Settings from `~/.tracklink/config.json`: every key optional, unknown keys ignored, the tracker's
address and token first from the environment.
-/

namespace TrackerSync

def defaultCacheTtlSecs : Nat := 300

/-- The contents of the settings file. -/
structure Settings where
  remoteUrl : Option String := none
  token : Option String := none
  perPage : Option Nat := none
  maxPages : Option Nat := none
  cacheTtlSecs : Option Nat := none
  concurrency : Option Nat := none
  seedPolicy : Option String := none
  importUnlinked : Option Bool := none
  collections : List Collection := []
  deriving Inhabited

abbrev Env := String → Option String

def envValue (env : Env) (name : String) : Option String :=
  (env name).filter fun v => !Text.isBlankText v

namespace Settings

def collectionShape : Json.Shape :=
  .record "Collection" [("kind", .choice (Kind.all.map Kind.name), .required),
    ("endpoint", .text, .required), ("params", .table .any, .fallback (.obj []))]

def shape : Json.Shape :=
  .record "Settings"
    [("remote_url", .optional .text, .fallback .null),
     ("token", .optional .text, .fallback .null),
     ("per_page", .optional (.unsigned "u32" 4294967295), .fallback .null),
     ("max_pages", .optional (.unsigned "u32" 4294967295), .fallback .null),
     ("cache_ttl_secs", .optional (.unsigned "u64" 18446744073709551615), .fallback .null),
     ("concurrency", .optional (.unsigned "usize" 18446744073709551615), .fallback .null),
     ("seed_policy", .optional .text, .fallback .null),
     ("import_unlinked", .optional .flag, .fallback .null),
     ("collections", .list collectionShape, .fallback (.arr []))]

def collectionOf (j : Json) : Collection :=
  { kind := ((j.getStr? "kind").bind Kind.ofName?).getD .issue
    endpoint := (j.getStr? "endpoint").getD ""
    params := ((j.get? "params").bind Json.members?).getD [] }

def ofChecked (j : Json) : Settings :=
  let bool? (k : String) : Option Bool := match j.get? k with
    | some (.bool b) => some b
    | _ => none
  { remoteUrl := j.getStr? "remote_url", token := j.getStr? "token"
    perPage := (j.get? "per_page").bind Json.asNat?, maxPages := (j.get? "max_pages").bind Json.asNat?
    cacheTtlSecs := (j.get? "cache_ttl_secs").bind Json.asNat?
    concurrency := (j.get? "concurrency").bind Json.asNat?
    seedPolicy := j.getStr? "seed_policy", importUnlinked := bool? "import_unlinked"
    collections := match j.get? "collections" with
      | some (.arr items) => items.map collectionOf
      | _ => [] }

def ofJson (j : Json) : Except String Settings := (shape.check j).map ofChecked

def decode (text : String) : Except Json.JsonError Settings := (shape.decode text).map ofChecked

/-- The settings as written: absent keys and an empty collection list left out. -/
def toJson (s : Settings) : Json :=
  let opt (k : String) (v : Option Json) : List (String × Json) := match v with
    | some x => [(k, x)]
    | none => []
  Json.record (opt "remote_url" (s.remoteUrl.map .str) ++ opt "token" (s.token.map .str) ++
    opt "per_page" (s.perPage.map Json.ofNat) ++ opt "max_pages" (s.maxPages.map Json.ofNat) ++
    opt "cache_ttl_secs" (s.cacheTtlSecs.map Json.ofNat) ++
    opt "concurrency" (s.concurrency.map Json.ofNat) ++
    opt "seed_policy" (s.seedPolicy.map .str) ++ opt "import_unlinked" (s.importUnlinked.map .bool) ++
    (if s.collections.isEmpty then [] else [("collections", .arr (s.collections.map Collection.toJson))]))

/-- The tracker's address: the environment, then the file; blank counts as none. -/
def trackerUrl (s : Settings) (env : Env) : Except Error String :=
  let url := match envValue env "TRACKLINK_REMOTE_URL" with
    | some u => some u
    | none => s.remoteUrl
  match url.filter fun u => !Text.isBlankText u with
  | some u => .ok u
  | none => .error (.config "remote_url is not configured")

def tokenFor (s : Settings) (env : Env) : Option String :=
  match envValue env "TRACKLINK_TOKEN" with
  | some t => some t
  | none => s.token

def pageSize (s : Settings) : Nat := max 1 (s.perPage.getD defaultPerPage)

def pageCeiling (s : Settings) : Nat := max 1 (s.maxPages.getD defaultMaxPages)

def cacheTtl (s : Settings) : Nat := s.cacheTtlSecs.getD defaultCacheTtlSecs

def syncOptions (s : Settings) : Except Error SyncOptions := do
  let policy ← match s.seedPolicy with
    | some raw =>
      match SeedPolicy.parse raw with
      | .ok p => pure p
      | .error e => throw (.config ("seed_policy: " ++ e))
    | none => pure .fillEmptyLocal
  return { concurrency := max 1 (s.concurrency.getD defaultConcurrency), seedPolicy := policy
           importUnlinked := s.importUnlinked.getD false }

def collection (s : Settings) (k : Kind) : Collection :=
  (s.collections.find? (·.kind == k)).getD (Collection.ofKind k)

def runCollections (s : Settings) : List Collection :=
  if s.collections.isEmpty then [Collection.ofKind .issue] else s.collections

end Settings

end TrackerSync
