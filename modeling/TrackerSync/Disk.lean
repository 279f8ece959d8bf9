import TrackerSync.Store.Basic

/-!
A file tree of directories, text files and database files under `/`-separated paths, whose
operations fail as the operating system's do.
-/

namespace TrackerSync

/-- Why a file operation failed, as an operating-system error number. -/
inductive IoProblem where
  | notFound
  | alreadyExists
  | notADirectory
  | isADirectory
  /-- The file's bytes are not text. -/
  | notText
  deriving BEq, DecidableEq, Repr, Inhabited

namespace IoProblem

def code : IoProblem → Nat
  | .notFound => 2
  | .alreadyExists => 17
  | .notADirectory => 20
  | .isADirectory => 21
  | .notText => 0

def message : IoProblem → String
  | .notText => "stream did not contain valid UTF-8"
  | p =>
    let text := match p with
      | .notFound => "No such file or directory"
      | .alreadyExists => "File exists"
      | .notADirectory => "Not a directory"
      | _ => "Is a directory"
    text ++ " (os error " ++ toString p.code ++ ")"

end IoProblem

/-- What a path holds. -/
inductive Entry where
  | directory
  | text (content : String)
  | database (store : Store)
  deriving Inhabited

def homeDir : String := "@home"

def pathParts (path : String) : List String :=
  (path.splitOn "/").filter fun c => c != "" && c != "."

/-- The key of a path: its components joined by `/`, marked when the path is absolute. -/
def pathKey (path : String) : String :=
  (if path.startsWith "/" then "/" else "") ++ "/".intercalate (pathParts path)

def ancestorKeys (path : String) : List String :=
  let parts := pathParts path
  let lead := if path.startsWith "/" then "/" else ""
  ((List.range parts.length).drop 1).map fun n => lead ++ "/".intercalate (parts.take n)

/-- The parent of a path as written, when it has one (`a/b` → `a`; `b` → the empty path). -/
def parentPath (path : String) : Option String :=
  let parts := pathParts path
  if parts.isEmpty then none
  else some ((if path.startsWith "/" then "/" else "") ++ "/".intercalate parts.dropLast)

/-- A tree of files by path key. -/
structure Disk where
  entries : Table Entry := {}
  deriving Inhabited

namespace Disk

/-- What a path holds: the root, the home directory and the empty path are directories. -/
def entry? (d : Disk) (path : String) : Option Entry :=
  let key := pathKey path
  if key == "" || key == "/" || key == homeDir then some .directory else d.entries.get? key

/-- The first ancestor of a path that is missing or not a directory, and why. -/
def blockedAncestor (d : Disk) (path : String) : Option IoProblem :=
  (ancestorKeys path).findSome? fun k =>
    match d.entry? k with
    | some .directory => none
    | some _ => some .notADirectory
    | none => some .notFound

def lookup (d : Disk) (path : String) : Except IoProblem Entry :=
  match d.blockedAncestor path with
  | some p => .error p
  | none =>
    match d.entry? path with
    | some e => .ok e
    | none => .error .notFound

def holds (d : Disk) (path : String) : Bool := (d.lookup path).toOption.isSome

def put (d : Disk) (path : String) (e : Entry) : Disk :=
  { d with entries := d.entries.insert (pathKey path) e }

def drop (d : Disk) (path : String) : Disk :=
  { d with entries := d.entries.erase (pathKey path) }

/-- Make a directory and its missing ancestors; a file in the way fails. -/
def createDirAll (d : Disk) (path : String) : Except IoProblem Disk :=
  let keys := ancestorKeys path ++ [pathKey path]
  keys.foldlM (fun d k =>
    if k == "" || k == "/" then .ok d
    else match d.entry? k with
      | some .directory => .ok d
      | some _ => .error (if k == pathKey path then .alreadyExists else .notADirectory)
      | none => .ok (d.put k .directory)) d

def checkParent (d : Disk) (path : String) : Except IoProblem Unit :=
  match parentPath path with
  | none => .ok ()
  | some p =>
    match d.lookup p with
    | .ok .directory => .ok ()
    | .ok _ => .error .notADirectory
    | .error e => .error e

def readText (d : Disk) (path : String) : Except IoProblem String :=
  match d.lookup path with
  | .ok (.text s) => .ok s
  | .ok .directory => .error .isADirectory
  | .ok (.database _) => .error .notText
  | .error e => .error e

def writeText (d : Disk) (path : String) (content : String) : Except IoProblem Disk := do
  d.checkParent path
  match d.entry? path with
  | some .directory => throw .isADirectory
  | _ => return d.put path (.text content)

def touch (d : Disk) (path : String) : Except IoProblem Disk := do
  d.checkParent path
  match d.entry? path with
  | some .directory => throw .isADirectory
  | some _ => return d
  | none => return d.put path (.text "")

def emptyDatabase : Store := { durable := true }

/-- Open a database file: its store, and the disk with a missing file created. -/
def openStore (d : Disk) (path : String) : Except Error (Disk × Store) :=
  let cannotOpen : Error := .database ("unable to open database file: " ++ path)
  match d.lookup path with
  | .ok (.database s) => .ok (d, s)
  | .ok (.text "") => .ok (d.put path (.database emptyDatabase), emptyDatabase)
  | .ok (.text _) => .error (.database "file is not a database")
  | .ok .directory => .error cannotOpen
  | .error .notFound =>
    match d.checkParent path with
    | .ok () => .ok (d.put path (.database emptyDatabase), emptyDatabase)
    | .error _ => .error cannotOpen
  | .error _ => .error cannotOpen

def saveStore (d : Disk) (path : String) (s : Store) : Disk := d.put path (.database s)

def removeFile (d : Disk) (path : String) : Except IoProblem Disk :=
  match d.lookup path with
  | .ok .directory => .error .isADirectory
  | .ok _ => .ok (d.drop path)
  | .error e => .error e

end Disk

end TrackerSync
