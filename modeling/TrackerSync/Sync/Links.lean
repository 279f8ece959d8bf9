import TrackerSync.Store.Basic
import TrackerSync.Json.Decode

/-!
The link table: a bijection between local and remote ids, changed only by batches that
require the texts they were planned against.
-/

namespace TrackerSync

/-- One link. -/
structure LinkRecord where
  localId : String
  remoteId : String
  /-- Unix milliseconds. -/
  linkedAt : Int
  deriving BEq, DecidableEq, Repr, Inhabited

namespace LinkRecord

def toJson (r : LinkRecord) : Json :=
  Json.record [("local_id", .str r.localId), ("remote_id", .str r.remoteId),
    ("linked_at", Json.ofInt r.linkedAt)]

def text (r : LinkRecord) : String := Json.compact r.toJson

def shape : Json.Shape :=
  .record "LinkRecord" [("local_id", .text, .required), ("remote_id", .text, .required),
    ("linked_at", Entity.i64Shape, .required)]

def decode (raw : String) : Except String LinkRecord :=
  match shape.decode raw with
  | .ok j => .ok { localId := (j.getStr? "local_id").getD "", remoteId := (j.getStr? "remote_id").getD ""
                   linkedAt := Entity.intOf ((j.get? "linked_at").getD .null) }
  | .error e => .error e.text

end LinkRecord

namespace Links

def storeError (e : Error) : LinkError := .store e.message

def pairCleanup (remoteId : String) : List Write :=
  [.delete nsBase remoteId, .delete nsConflicts remoteId, .delete nsCache remoteId]

def read (s : Store) (ns key : String) : Except LinkError (Option (LinkRecord × String)) :=
  match s.get ns key with
  | none => .ok none
  | some raw =>
    match LinkRecord.decode raw with
    | .ok r => .ok (some (r, raw))
    | .error e => .error (.store ("corrupt link " ++ ns ++ "/" ++ key ++ ": " ++ e))

def remoteFor (s : Store) (localId : String) : Except LinkError (Option String) :=
  (read s nsLinkLocal localId).map (·.map (·.1.remoteId))

def localFor (s : Store) (remoteId : String) : Except LinkError (Option String) :=
  (read s nsLinkRemote remoteId).map (·.map (·.1.localId))

def list (s : Store) : Except LinkError (List LinkRecord) :=
  (s.keys nsLinkLocal).filterMapM fun k => (read s nsLinkLocal k).map (·.map (·.1))

/-- The writes that make a link, after checking the bijection: only the two requirements when
the pair is already linked. -/
def linkOps (s : Store) (localId remoteId : String) (now : Int) : Except LinkError (List Write) := do
  let existingRemote ← read s nsLinkLocal localId
  let existingLocal ← read s nsLinkRemote remoteId
  let requires := [Write.require nsLinkLocal localId (existingRemote.map (·.2)),
    .require nsLinkRemote remoteId (existingLocal.map (·.2))]
  match existingRemote, existingLocal with
  | some (a, _), some (b, _) =>
    if a.remoteId == remoteId && b.localId == localId then return requires
    else if a.remoteId != remoteId then throw (.localAlreadyLinked localId a.remoteId)
    else throw (.remoteAlreadyLinked remoteId b.localId)
  | some (a, _), none =>
    if a.remoteId != remoteId then throw (.localAlreadyLinked localId a.remoteId)
  | none, some (b, _) =>
    if b.localId != localId then throw (.remoteAlreadyLinked remoteId b.localId)
  | none, none => pure ()
  let value := (LinkRecord.mk localId remoteId now).text
  return requires ++ pairCleanup remoteId ++
    [.put nsLinkLocal localId value, .put nsLinkRemote remoteId value]

/-- Make (or confirm) a link and apply `extra` writes in the same batch. When another writer got
in first, the link error that now applies is reported, else the store's. -/
def commitWith (s : Store) (localId remoteId : String) (extra : List Write) (now : Int) :
    Store × Except LinkError Unit :=
  match linkOps s localId remoteId now with
  | .error e => (s, .error e)
  | .ok ops =>
    let writes := ops ++ extra
    if writes.all Write.isRequire then (s, .ok ())
    else
      match s.writeBatch writes with
      | (s', none) => (s', .ok ())
      | (s', some e@(.writeConflict _ _)) =>
        match linkOps s' localId remoteId now with
        | .error le => (s', .error le)
        | .ok _ => (s', .error (storeError e))
      | (s', some e) => (s', .error (storeError e))

def link (s : Store) (localId remoteId : String) (now : Int) : Store × Except LinkError Unit :=
  commitWith s localId remoteId [] now

/-- The record of a local id's link and the writes that remove it. -/
def unlinkPlan (s : Store) (localId : String) : Except LinkError (LinkRecord × List Write) := do
  match ← read s nsLinkLocal localId with
  | none => throw (.notLinked localId)
  | some (r, raw) =>
    return (r, [.require nsLinkLocal localId (some raw), .delete nsLinkLocal localId,
      .delete nsLinkRemote r.remoteId] ++ pairCleanup r.remoteId)

def unlinkOps (s : Store) (localId : String) : Except LinkError (List Write) :=
  (unlinkPlan s localId).map (·.2)

def unlink (s : Store) (localId : String) : Store × Except LinkError LinkRecord :=
  match unlinkPlan s localId with
  | .error e => (s, .error e)
  | .ok (r, writes) =>
    match s.writeBatch writes with
    | (s', none) => (s', .ok r)
    | (s', some e@(.writeConflict _ _)) =>
      match read s' nsLinkLocal localId with
      | .error le => (s', .error le)
      | .ok none => (s', .error (.notLinked localId))
      | .ok (some _) => (s', .error (storeError e))
    | (s', some e) => (s', .error (storeError e))

end Links

end TrackerSync
