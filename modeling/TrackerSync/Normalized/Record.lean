import TrackerSync.Normalized.Timestamp
import TrackerSync.Snapshot.Codec

/-!
Records as they arrive from the tracker or the local side, and the canonical snapshot each
yields.
-/

namespace TrackerSync

/-- A record from the tracker before it is read. -/
inductive RawRecord where
  /-- Already in snapshot form. -/
  | mapping (members : List (String × Json))
  /-- As sent on the wire. -/
  | payload (v : Json)

/-- The text of an id value: a non-empty string, or a number in its JSON text. -/
def idText? : Option Json → Option String
  | some (.str s) => if s.isEmpty then none else some s
  | some (.num n) => some n.text
  | _ => none

def memberId? (m : List (String × Json)) : Option String :=
  match idText? (Obj.get? m "id") with
  | some s => some s
  | none => idText? (Obj.get? m "number")

def RawRecord.remoteId : RawRecord → Option String
  | .mapping m => memberId? m
  | .payload (.obj m) => memberId? m
  | .payload _ => none

/-- The canonical form of a status, with an event when it is outside the vocabulary. -/
def statusWithEvents (raw : String) : String × List Event :=
  match Status.resolve raw with
  | .ok _ => (Status.canonical raw, [])
  | .error (v, s) => (Status.canonical raw, [.unknownStatus v s])

def stringAt (m : List (String × Json)) (k : String) : Option String := (Obj.get? m k).bind Json.asStr?

def namedAt (m : List (String × Json)) (k nameKey : String) : Option String :=
  match Obj.get? m k with
  | some (.str s) => some s
  | some (.obj inner) => stringAt inner nameKey
  | _ => none

def personAt (m : List (String × Json)) (k : String) : Option String :=
  match Obj.get? m k with
  | some (.str s) => some s
  | some (.obj inner) =>
    match stringAt inner "login" with
    | some s => some s
    | none => stringAt inner "name"
  | _ => none

def labelsAt (m : List (String × Json)) : List String :=
  match Obj.get? m "labels" with
  | some (.arr items) =>
    canonicalLabels (items.filterMap fun
      | .str s => some s
      | .obj inner => stringAt inner "name"
      | _ => none)
  | _ => []

def firstText (m : List (String × Json)) : List String → Option String
  | [] => none
  | k :: ks =>
    match stringAt m k with
    | some s => if s.isEmpty then firstText m ks else some s
    | none => firstText m ks

def projectPayload (m : List (String × Json)) : Normalized Snapshot × List Event :=
  match memberId? m with
  | none => (.absent ⟨.missingId, "payload without id or number"⟩, [])
  | some id =>
    let (status, statusEvents) := match stringAt m "status" with
      | some s => (some (statusWithEvents s).1, (statusWithEvents s).2)
      | none =>
        match stringAt m "state" with
        | some s => (some (statusWithEvents s).1, (statusWithEvents s).2)
        | none => (none, [])
    let timeField := match Obj.get? m "updated_at" with
      | some .null | none => "modified_at"
      | some _ => "updated_at"
    let (time, timeEvents) := extractTimestamp (RawTime.ofMember (Obj.get? m timeField)) timeField
    let s : Snapshot :=
      { id, title := stringAt m "title", status, assignee := personAt m "assignee",
        milestone := namedAt m "milestone" "title",
        description := firstText m ["headline", "description", "body"],
        labels := labelsAt m, updatedAt := time.toOption }
    (.present s.canonicalize, statusEvents ++ timeEvents)

def normalizeMapping (m : List (String × Json)) : Normalized Snapshot × List Event :=
  if m.isEmpty then (.absent ⟨.empty, "empty mapping"⟩, [])
  else
    match Snapshot.ofJson (.obj (Obj.erase m "updated_at")) with
    | .error e => (.absent ⟨.unparseable, e⟩, [])
    | .ok s =>
      if s.id.isEmpty then (.absent ⟨.missingId, "mapping without id"⟩, [])
      else
        let (time, events) := extractTimestamp (RawTime.ofMember (Obj.get? m "updated_at")) "updated_at"
        (.present { s with updatedAt := time.toOption }.canonicalize, events)

def RawRecord.normalize (r : RawRecord) : Normalized Snapshot × List Event :=
  let (result, events) := match r with
    | .mapping m => normalizeMapping m
    | .payload .null => (.absent ⟨.empty, "null payload"⟩, [])
    | .payload (.obj m) => projectPayload m
    | .payload _ => (.absent ⟨.unsupportedShape, "payload is not an object"⟩, [])
  match result with
  | .absent d => (result, events ++ [.normalizationFailed d.display])
  | .present _ => (result, events)

def Entity.normalize (e : Entity) : Snapshot × List Event :=
  let (status, statusEvents) :=
    if Text.isBlankText e.status then (none, [])
    else (some (statusWithEvents e.status).1, (statusWithEvents e.status).2)
  let (time, timeEvents) := extractTimestamp (RawTime.ofEntity e "updated_at") "updated_at"
  let s : Snapshot :=
    { id := e.id, title := some e.title, status, assignee := e.assignee, milestone := e.milestone,
      description := e.description, labels := e.labels, updatedAt := time.toOption }
  (s.canonicalize, statusEvents ++ timeEvents)

end TrackerSync
