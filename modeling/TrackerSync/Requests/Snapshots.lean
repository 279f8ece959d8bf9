import TrackerSync.Requests.Basic
import TrackerSync.Snapshot.Codec
import TrackerSync.Snapshot.Fingerprint
import TrackerSync.Detection.Codec

/-!
Requests on snapshots: codec, field updates and values, and three-way detection.
-/

namespace TrackerSync.Requests

def needSnapshot (req : Json) (name : String) : Except Failure Snapshot := do
  decodeAs Snapshot.shape Snapshot.ofChecked (← need req name)

/-- Every field of a snapshot with its value, as a JSON object. -/
def fieldsJson (s : Snapshot) : Json :=
  Json.mkObj (Field.all.map fun f => (f.name, (s.get f).toJson))

/-- `snapshot {snapshot}`: the snapshot as decoded and canonical, its fields and fingerprints. -/
def snapshot (req : Json) : Answer := do
  let s ← needSnapshot req "snapshot"
  let c := s.canonicalize
  return Json.mkObj [("decoded", s.toJson), ("canonical", c.toJson), ("fields", fieldsJson s),
    ("fingerprint", .str s.fingerprint), ("canonical_fingerprint", .str c.fingerprint)]

def fieldUpdate (v : Json) : Except Failure (Field × FieldValue) := do
  let field ← decodeAs Field.shape (fun j => (j.asStr?.bind Field.ofName?).getD .title)
    (← need v "field")
  let value ← decodeAs FieldValue.shape FieldValue.ofChecked (← need v "value")
  return (field, value)

def applyUpdates (s : Snapshot) : List (Field × FieldValue) → List Json × Snapshot
  | [] => ([], s)
  | (f, v) :: rest =>
    let s' := s.set f v
    let (shown, final) := applyUpdates s' rest
    (Json.mkObj [("snapshot", s'.toJson), ("value", (s'.get f).toJson)] :: shown, final)

def snapshotSet (req : Json) : Answer := do
  let s ← needSnapshot req "snapshot"
  let updates ← (← needList req "sets").mapM fieldUpdate
  let (shown, final) := applyUpdates s updates
  return Json.mkObj [("after", .arr shown), ("fingerprint", .str final.fingerprint)]

/-- `field_value {value}`: a field value, whether it is empty, and how it is shown. -/
def fieldValue (req : Json) : Answer := do
  let v ← decodeAs FieldValue.shape FieldValue.ofChecked (← need req "value")
  return Json.mkObj [("decoded", v.toJson), ("is_empty", .bool v.isEmpty), ("to_json", v.toJson),
    ("display", .str v.display)]

/-- The seed policy a request names, by default filling empty local fields. -/
def seedPolicyOf (req : Json) : Except Failure SeedPolicy :=
  match optional req "policy" with
  | some (.str p) => orFail "UnknownSeedPolicy" (SeedPolicy.parse p)
  | some _ => .error (badInput "field policy must be a string")
  | none => .ok .fillEmptyLocal

/-- `detect {base?, local, remote, policy?}`: the detection and what it leads to. -/
def detect (req : Json) : Answer := do
  let policy ← seedPolicyOf req
  let base ← match optional req "base" with
    | some b => some <$> decodeAs Snapshot.shape Snapshot.ofChecked b
    | none => pure none
  let loc ← needSnapshot req "local"
  let rem ← needSnapshot req "remote"
  let d := TrackerSync.detect policy base loc rem
  let next := d.nextBase rem
  let answer := Json.mkObj [
    ("kind", .str (if d.isSeed then "seed" else "classified")), ("is_seed", .bool d.isSeed),
    ("status", .str d.standing.name), ("fields", d.fieldsJson),
    ("changes", .arr (d.changes.map FieldChange.toJson)),
    ("conflicts", .arr (d.conflicts.map ConflictRecord.toJson)),
    ("next_base", next.toJson), ("next_base_fingerprint", .str next.fingerprint)]
  return if flag req "show_policy" then answer.set "policy" (.str policy.name) else answer

end TrackerSync.Requests
