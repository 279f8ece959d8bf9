import TrackerSync.Store.Basic
import TrackerSync.Snapshot.Codec
import TrackerSync.Snapshot.Fingerprint
import TrackerSync.Detection.Codec

/-!
The stored sync state of a linked pair: its base and its open conflicts.
-/

namespace TrackerSync

/-- The last agreed snapshot of a pair, with its fingerprint. -/
structure StoredBase where
  snapshot : Snapshot
  fingerprint : String
  deriving BEq, Repr, Inhabited

namespace StoredBase

def ofSnapshot (s : Snapshot) : StoredBase := { snapshot := s, fingerprint := s.fingerprint }

def toJson (b : StoredBase) : Json :=
  Json.record [("snapshot", b.snapshot.toJson), ("fingerprint", .str b.fingerprint)]

def shape : Json.Shape :=
  .record "StoredBase" [("snapshot", Snapshot.shape, .required), ("fingerprint", .text, .required)]

def decode (raw : String) : Except Json.JsonError StoredBase :=
  (shape.decode raw).map fun j =>
    { snapshot := Snapshot.ofChecked ((j.get? "snapshot").getD .null)
      fingerprint := (j.getStr? "fingerprint").getD "" }

end StoredBase

/-- The open conflicts of a pair. -/
structure ConflictSet where
  localId : String
  remoteId : String
  /-- Unix milliseconds. -/
  detectedAt : Int
  conflicts : List ConflictRecord
  deriving BEq, Repr, Inhabited

namespace ConflictSet

def toJson (c : ConflictSet) : Json :=
  Json.record [("local_id", .str c.localId), ("remote_id", .str c.remoteId),
    ("detected_at", Json.ofInt c.detectedAt), ("conflicts", .arr (c.conflicts.map ConflictRecord.toJson))]

def shape : Json.Shape :=
  .record "ConflictSet" [("local_id", .text, .required), ("remote_id", .text, .required),
    ("detected_at", Entity.i64Shape, .required), ("conflicts", .list ConflictRecord.shape, .required)]

def decode (raw : String) : Except Json.JsonError ConflictSet :=
  (shape.decode raw).map fun j =>
    { localId := (j.getStr? "local_id").getD "", remoteId := (j.getStr? "remote_id").getD ""
      detectedAt := Entity.intOf ((j.get? "detected_at").getD .null)
      conflicts := match j.get? "conflicts" with
        | some (.arr items) => items.map ConflictRecord.ofChecked
        | _ => [] }

end ConflictSet

namespace SyncState

def loadBase (s : Store) (remoteId : String) : Except Error (Option StoredBase) :=
  match s.get nsBase remoteId with
  | none => .ok none
  | some raw => (StoredBase.decode raw).map some |>.mapError fun e => .json e.text

def baseOp (remoteId : String) (b : StoredBase) : Write :=
  .put nsBase remoteId (Json.compact b.toJson)

/-- The write that stores a conflict set, or removes the key when the set is empty. -/
def conflictsOp (c : ConflictSet) : Write :=
  if c.conflicts.isEmpty then .delete nsConflicts c.remoteId
  else .put nsConflicts c.remoteId (Json.compact c.toJson)

def loadConflicts (s : Store) (remoteId : String) : Except Error (Option ConflictSet) :=
  match s.get nsConflicts remoteId with
  | none => .ok none
  | some raw => (ConflictSet.decode raw).map some |>.mapError fun e => .json e.text

/-- Every stored conflict set, by remote id; the first corrupt one is an error. -/
def listConflicts (s : Store) : Except Error (List ConflictSet) :=
  (s.keys nsConflicts).filterMapM (loadConflicts s)

end SyncState

end TrackerSync
