import TrackerSync.Normalized.Basic
import TrackerSync.Sync.Event
import TrackerSync.Time.Parse
import TrackerSync.Entity.Local

/-!
Reading timestamps from JSON objects, local items and snapshots, exact forms first.
-/

namespace TrackerSync

/-- A timestamp field as found, before it is read. -/
inductive RawTime where
  /-- Already a time. -/
  | time (t : Time.Instant)
  /-- A text to read. -/
  | text (s : String)
  /-- Not there. -/
  | missing
  /-- A value of another kind, named by its kind. -/
  | other (shape : String)
  deriving BEq, Repr

namespace RawTime

def ofMember (j : Option Json) : RawTime :=
  match j with
  | none | some .null => .missing
  | some (.str s) => .text s
  | some (.num _) => .other "number"
  | some (.bool _) => .other "bool"
  | some (.arr _) => .other "array"
  | some (.obj _) => .other "object"

def ofJson (v : Json) (field : String) : RawTime :=
  match v with
  | .obj _ => ofMember (v.get? field)
  | _ => .missing

def ofEntity (e : Entity) (field : String) : RawTime :=
  if field != "updated_at" then .missing
  else
    match Time.Instant.ofMillis? e.updatedAt with
    | some t => .time t
    | none => .other "out-of-range millis"

def ofSnapshot (s : Snapshot) (field : String) : RawTime :=
  match field, s.updatedAt with
  | "updated_at", some t => .time t
  | _, _ => .missing

end RawTime

def zuluAsOffset (text : String) : String :=
  if text.endsWith "Z" || text.endsWith "z" then (text.dropEnd 1).toString ++ "+00:00" else text

def naivePatterns : List String := ["%Y-%m-%dT%H:%M:%S%.f", "%Y-%m-%d %H:%M:%S%.f", "%Y-%m-%dT%H:%M"]

def parseTimestamp (text : String) : Option Time.Instant :=
  let t := zuluAsOffset (Text.trim text)
  match Time.rfc3339 t with
  | .ok i => some i
  | .error _ => naivePatterns.findSome? fun p => (Time.naive p t).toOption

def extractTimestamp (raw : RawTime) (field : String) : Normalized Time.Instant × List Event :=
  let degraded (d : Degraded) := (Normalized.absent d, [Event.timestampDegraded field d.display])
  match raw with
  | .time t => (.present t, [])
  | .missing => (.absent ⟨.missing, field⟩, [])
  | .text s =>
    match parseTimestamp s with
    | some t => (.present t, [])
    | none => degraded ⟨.unparseable, s⟩
  | .other shape => degraded ⟨.unsupportedShape, shape⟩

end TrackerSync
