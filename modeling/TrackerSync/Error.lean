import TrackerSync.Remote.Basic

/-!
Errors of the program: text, machine code by category, exit status, whether a caller may retry,
and a hint for recovery.
-/

namespace TrackerSync

/-- Why a link could not be made, found or stored. -/
inductive LinkError where
  | localAlreadyLinked (localId remoteId : String)
  | remoteAlreadyLinked (remoteId localId : String)
  | notLinked (id : String)
  | store (message : String)
  deriving BEq, DecidableEq, Repr, Inhabited

namespace LinkError

def message : LinkError → String
  | .localAlreadyLinked l r => "local entity " ++ l ++ " is already linked to remote " ++ r
  | .remoteAlreadyLinked r l => "remote entity " ++ r ++ " is already linked to local " ++ l
  | .notLinked id => id ++ " is not linked"
  | .store m => "link storage failed: " ++ m

def kind : LinkError → String
  | .localAlreadyLinked _ _ => "LocalAlreadyLinked"
  | .remoteAlreadyLinked _ _ => "RemoteAlreadyLinked"
  | .notLinked _ => "NotLinked"
  | .store _ => "Store"

end LinkError

/-- Why a sync run or one entity of it failed. -/
inductive SyncError where
  | authentication (message : String)
  | pushIgnored (remoteId fields : String)
  | listing (endpoint : String) (source : Remote.Failure)
  deriving BEq, DecidableEq, Repr, Inhabited

namespace SyncError

def message : SyncError → String
  | .authentication m => "authentication failed: " ++ m
  | .pushIgnored r fs => "remote " ++ r ++ " did not keep pushed field(s): " ++ fs
  | .listing e s => "listing " ++ e ++ " failed: " ++ s.message

def kind : SyncError → String
  | .authentication _ => "Authentication"
  | .pushIgnored _ _ => "PushIgnored"
  | .listing _ _ => "Listing"

end SyncError

/-- An error of the program. -/
inductive Error where
  | notInitialized
  | alreadyInitialized (path : String)
  | entityNotFound (id : String)
  | database (message : String)
  | io (message : String)
  | json (message : String)
  | link (e : LinkError)
  | remote (e : Remote.Failure)
  | sync (e : SyncError)
  | writeConflict (ns key : String)
  | invalidArgument (message : String)
  | config (message : String)
  | other (message : String)
  deriving BEq, DecidableEq, Repr, Inhabited

/-- Machine codes of errors. -/
inductive ErrorCode where
  | notInitialized
  | alreadyInitialized
  | databaseError
  | entityNotFound
  | linkNotFound
  | invalidArgument
  | linkConflict
  | remoteError
  | authenticationFailed
  | syncError
  | configError
  | ioError
  | jsonError
  | internalError
  deriving BEq, DecidableEq, Repr, Inhabited

namespace ErrorCode

def text : ErrorCode → String
  | .notInitialized => "NOT_INITIALIZED"
  | .alreadyInitialized => "ALREADY_INITIALIZED"
  | .databaseError => "DATABASE_ERROR"
  | .entityNotFound => "ENTITY_NOT_FOUND"
  | .linkNotFound => "LINK_NOT_FOUND"
  | .invalidArgument => "INVALID_ARGUMENT"
  | .linkConflict => "LINK_CONFLICT"
  | .remoteError => "REMOTE_ERROR"
  | .authenticationFailed => "AUTHENTICATION_FAILED"
  | .syncError => "SYNC_ERROR"
  | .configError => "CONFIG_ERROR"
  | .ioError => "IO_ERROR"
  | .jsonError => "JSON_ERROR"
  | .internalError => "INTERNAL_ERROR"

def exitCode : ErrorCode → Nat
  | .internalError => 1
  | .notInitialized | .alreadyInitialized | .databaseError => 2
  | .entityNotFound | .linkNotFound => 3
  | .invalidArgument | .linkConflict => 4
  | .remoteError | .authenticationFailed => 5
  | .syncError => 6
  | .configError => 7
  | .ioError | .jsonError => 8

def retryable : ErrorCode → Bool
  | .invalidArgument | .linkConflict | .remoteError | .databaseError => true
  | _ => false

end ErrorCode

namespace Error

def message : Error → String
  | .notInitialized => "Not initialized: run `tl init` first"
  | .alreadyInitialized p => "Already initialized at " ++ p
  | .entityNotFound id => "Entity not found: " ++ id
  | .database m => "Database error: " ++ m
  | .io m => "IO error: " ++ m
  | .json m => "JSON error: " ++ m
  | .link e => "Link error: " ++ e.message
  | .remote e => "Remote error: " ++ e.message
  | .sync e => "Sync error: " ++ e.message
  | .writeConflict ns key => "Write conflict: " ++ ns ++ "/" ++ key ++ " changed concurrently"
  | .invalidArgument m => "Invalid argument: " ++ m
  | .config m => "Configuration error: " ++ m
  | .other m => m

/-- The name of an error's cause; nested causes are named `Link.`, `Remote.` or `Sync.` and
the inner cause. -/
def kind : Error → String
  | .notInitialized => "NotInitialized"
  | .alreadyInitialized _ => "AlreadyInitialized"
  | .entityNotFound _ => "EntityNotFound"
  | .database _ => "Database"
  | .io _ => "Io"
  | .json _ => "Json"
  | .link e => "Link." ++ e.kind
  | .remote e => "Remote." ++ e.kind
  | .sync e => "Sync." ++ e.kind
  | .writeConflict _ _ => "WriteConflict"
  | .invalidArgument _ => "InvalidArgument"
  | .config _ => "Config"
  | .other _ => "Other"

def code : Error → ErrorCode
  | .notInitialized => .notInitialized
  | .alreadyInitialized _ => .alreadyInitialized
  | .database _ | .writeConflict _ _ => .databaseError
  | .entityNotFound _ => .entityNotFound
  | .link (.notLinked _) => .linkNotFound
  | .link (.store _) => .databaseError
  | .link _ => .linkConflict
  | .remote (.authentication _) | .sync (.authentication _) => .authenticationFailed
  | .remote _ => .remoteError
  | .sync _ => .syncError
  | .invalidArgument _ => .invalidArgument
  | .config _ => .configError
  | .io _ => .ioError
  | .json _ => .jsonError
  | .other _ => .internalError

def exitCode (e : Error) : Nat := e.code.exitCode

def hint : Error → Option String
  | .notInitialized => some "Run `tl init` to initialize the database"
  | .alreadyInitialized p =>
    some ("Database already exists at " ++ p ++ ". Use `--force` to reinitialize.")
  | .entityNotFound id =>
    some ("No local entity with ID '" ++ id ++ "'. Use `tl link list` to see linked entities.")
  | .link (.localAlreadyLinked l r) =>
    some ("'" ++ l ++ "' is already linked to '" ++ r ++ "'. Run `tl link remove " ++ l ++ "` first.")
  | .link (.remoteAlreadyLinked r l) =>
    some ("Remote '" ++ r ++ "' is already linked to '" ++ l ++ "'. Run `tl link remove " ++ l ++
      "` first.")
  | .link (.notLinked _) => some "Use `tl link list` to see existing links."
  | .remote (.authentication _) | .sync (.authentication _) =>
    some ("The remote tracker rejected the credentials.\n  " ++
      "Set TRACKLINK_TOKEN or `token` in ~/.tracklink/config.json")
  | .config m =>
    if (m.splitOn "remote_url").length > 1 then
      some "Set TRACKLINK_REMOTE_URL or `remote_url` in ~/.tracklink/config.json"
    else none
  | .invalidArgument m =>
    if (m.splitOn "kind").length > 1 then some "Valid kinds: issue, milestone, project" else none
  | _ => none

/-- The structured form of an error for machine consumers:
`{"error": {code, message, retryable, exit_code, hint?}}`. -/
def structured (e : Error) : Json :=
  let base := [("code", Json.str e.code.text), ("message", .str e.message),
    ("retryable", .bool e.code.retryable), ("exit_code", Json.ofNat e.exitCode)]
  let members := match e.hint with
    | some h => base ++ [("hint", .str h)]
    | none => base
  Json.mkObj [("error", Json.mkObj members)]

end Error

end TrackerSync
