import TrackerSync.Table
import TrackerSync.Error
import TrackerSync.Store.Row

/-!
The store: local work items, the sync state as texts under a namespace and a key, and, for a
durable store, an audit trail and items kept as rows.
-/

namespace TrackerSync

def nsLinkLocal : String := "link.local"
def nsLinkRemote : String := "link.remote"
def nsCache : String := "cache"
def nsBase : String := "base"
def nsConflicts : String := "conflicts"

def syncNamespaces : List String := [nsBase, nsCache, nsConflicts, nsLinkLocal, nsLinkRemote]

/-- One write of a batch. -/
inductive Write where
  | put (ns key value : String)
  | delete (ns key : String)
  /-- The batch holds only if the key holds this text (`none`: nothing). -/
  | require (ns key : String) (value : Option String)
  deriving BEq, DecidableEq, Repr, Inhabited

namespace Write

def target : Write → String × String
  | .put ns key _ | .delete ns key | .require ns key _ => (ns, key)

def conflict (w : Write) : Error := .writeConflict w.target.1 w.target.2

def isRequire : Write → Bool
  | .require _ _ _ => true
  | _ => false

end Write

/-- What an audit row records. -/
inductive AuditKind where
  | entityCreated
  | entityUpdated
  | entityRemoved
  | syncCommitted
  | linkCreated
  | linkRemoved
  | cacheCleared
  /-- A kind this store does not know, by name; rows of it are never shown. -/
  | other (name : String)
  deriving BEq, DecidableEq, Repr, Inhabited

namespace AuditKind

def known : List AuditKind :=
  [.entityCreated, .entityUpdated, .entityRemoved, .syncCommitted, .linkCreated, .linkRemoved,
   .cacheCleared]

def name : AuditKind → String
  | .entityCreated => "entity_created"
  | .entityUpdated => "entity_updated"
  | .entityRemoved => "entity_removed"
  | .syncCommitted => "sync_committed"
  | .linkCreated => "link_created"
  | .linkRemoved => "link_removed"
  | .cacheCleared => "cache_cleared"
  | .other n => n

def ofName (n : String) : AuditKind := (known.find? (·.name == n)).getD (.other n)

def isKnown : AuditKind → Bool
  | .other _ => false
  | _ => true

end AuditKind

/-- An audit row. -/
structure AuditRow where
  entityType : String
  entityId : String
  kind : AuditKind
  actor : String
  oldValue : Option String := none
  newValue : Option String := none
  comment : Option String
  /-- When the row was written, in Unix milliseconds, if not by this store just now. -/
  stamp : Option Int := none
  deriving BEq, Repr, Inhabited

/-- Faults planted in a store. -/
structure Faults where
  /-- Every batch fails. -/
  failBatches : Bool := false
  /-- Every delete of a key fails. -/
  failDeletes : Bool := false
  /-- Every load of a local item fails. -/
  failLoads : Bool := false
  /-- Saves of local items fail: `none` never, `some n` after `n` more saves. -/
  failSaves : Option Nat := none
  /-- Every removal of a local item fails. -/
  failRemoves : Bool := false
  /-- A write of another writer, applied just before the next batch. -/
  interference : Option Write := none
  deriving Inhabited

def diskFull : Error := .other "disk full"

def localUnavailable : Error := .other "local store unavailable"

/-- A store of local items, sync state and audit rows. -/
structure Store where
  /-- Durable: batches in order with undo, and an audit trail. -/
  durable : Bool := false
  kv : Table (Table String) := {}
  entities : Table Entity := {}
  /-- Audit rows, newest first. -/
  audit : List AuditRow := []
  actor : String := "tl"
  faults : Faults := {}
  /-- Stored rows of local items that are not exactly the row of an item, by id: rows changed
  by other means, which may not read back. A row is in `entities` or here, never in both. -/
  strays : Table (List Cell) := {}
  deriving Inhabited

namespace Store

def get (s : Store) (ns key : String) : Option String := (s.kv.get? ns).bind (·.get? key)

def space (s : Store) (ns : String) : Table String := (s.kv.get? ns).getD {}

def setSpace (s : Store) (ns : String) (t : Table String) : Store :=
  { s with kv := if t.isEmpty then s.kv.erase ns else s.kv.insert ns t }

def put (s : Store) (ns key value : String) : Store := s.setSpace ns ((s.space ns).insert key value)

def remove (s : Store) (ns key : String) : Bool × Store :=
  ((s.space ns).contains key, s.setSpace ns ((s.space ns).erase key))

def keys (s : Store) (ns : String) : List String := (s.space ns).keys

def record (s : Store) (row : AuditRow) : Store :=
  if s.durable then { s with audit := row :: s.audit } else s

/-- Remove every key of a namespace; how many there were. A durable store records the
clearing of a non-empty cache. -/
def clear (s : Store) (ns : String) : Nat × Store :=
  let n := (s.space ns).size
  let s' := s.setSpace ns {}
  let s' := if ns == nsCache && n > 0 then
      s'.record
        { entityType := "cache", entityId := "*", kind := .cacheCleared, actor := s.actor
          comment := some "clear_namespace" }
    else s'
  (n, s')

def delete (s : Store) (ns key : String) : Except Error (Bool × Store) :=
  if s.faults.failDeletes then .error diskFull else .ok (s.remove ns key)

/-- One write applied in place, with its audit rows; a `require` only checks. -/
def applyWrite (s : Store) (w : Write) : Except Error Store :=
  match w with
  | .put ns key value =>
    let s' := s.put ns key value
    if ns == nsLinkLocal then
      .ok (s'.record
        { entityType := "link", entityId := key, kind := .linkCreated, actor := s.actor
          newValue := some value, comment := some "write_batch" })
    else if ns == nsBase then
      .ok (s'.record
        { entityType := "remote", entityId := key, kind := .syncCommitted, actor := s.actor
          comment := some "write_batch" })
    else .ok s'
  | .delete ns key =>
    let s' := (s.remove ns key).2
    if ns == nsLinkLocal then
      .ok (s'.record
        { entityType := "link", entityId := key, kind := .linkRemoved, actor := s.actor
          comment := some "write_batch" })
    else .ok s'
  | .require ns key value => if s.get ns key == value then .ok s else .error w.conflict

/-- Apply writes in order, failing at the first `require` that does not hold. -/
def applyWrites (s : Store) : List Write → Except Error Store
  | [] => .ok s
  | w :: ws => do applyWrites (← s.applyWrite w) ws

/-- The first `require` of a batch that the store does not satisfy. -/
def unmet (s : Store) (ws : List Write) : Option Write :=
  ws.find? fun
    | .require ns key value => s.get ns key != value
    | _ => false

/-- Apply a batch whole or not at all, by the store's discipline. -/
def commitBatch (s : Store) (ws : List Write) : Except Error Store :=
  if s.durable then s.applyWrites ws
  else
    match s.unmet ws with
    | some w => .error w.conflict
    | none => s.applyWrites (ws.filter fun w => !w.isRequire)

/-- Apply a batch: a planted write of another writer lands first, then the batch, unless
batches are failing. Gives the store after the attempt and the failure, if any. -/
def writeBatch (s : Store) (ws : List Write) : Store × Option Error :=
  let s := match s.faults.interference with
    | some w =>
      let s := { s with faults := { s.faults with interference := none } }
      match s.commitBatch [w] with
      | .ok s' => s'
      | .error _ => s
    | none => s
  if s.faults.failBatches then (s, some diskFull)
  else
    match s.commitBatch ws with
    | .ok s' => (s', none)
    | .error e => (s, some e)

/-! Local items. -/

def hasRow (s : Store) (id : String) : Bool := s.entities.contains id || s.strays.contains id

/-- A local item by id, unless loads are failing or its row does not read back. -/
def load (s : Store) (id : String) : Except Error (Option Entity) :=
  if s.faults.failLoads then .error localUnavailable
  else match s.strays.get? id with
    | some cells => (Entity.ofRow cells).map some |>.mapError .database
    | none => .ok (s.entities.get? id)

def statusOf? (s : Store) (id : String) : Option String :=
  match s.entities.get? id with
  | some e => some e.status
  | none => (s.strays.get? id).bind fun cells => (Entity.cellAt cells 3).text?

/-- Store the row of a local id. A row that is exactly the row of an item is kept as that item,
any other as it stands. -/
def putRow (s : Store) (id : String) (cells : List Cell) : Store :=
  match Entity.readBack cells with
  | some e => { s with entities := s.entities.insert id e, strays := s.strays.erase id }
  | none => { s with entities := s.entities.erase id, strays := s.strays.insert id cells }

/-- Write a local item: a durable store writes the item's row, a store in memory keeps the item. -/
def keepItem (s : Store) (e : Entity) : Store :=
  if s.durable then s.putRow e.id e.row
  else { s with entities := s.entities.insert e.id e, strays := s.strays.erase e.id }

/-- Insert or replace a local item, with no fault and its audit row. -/
def saveEntity (s : Store) (e : Entity) : Store :=
  let row : AuditRow :=
    if s.hasRow e.id then
      { entityType := e.kind.name, entityId := e.id, kind := .entityUpdated, actor := s.actor
        oldValue := s.statusOf? e.id, newValue := some e.status, comment := some "save_entity" }
    else
      { entityType := e.kind.name, entityId := e.id, kind := .entityCreated, actor := s.actor
        comment := some "save_entity" }
  (s.keepItem e).record row

/-- Insert or replace a local item, unless saves are failing (counting down planted saves). -/
def save (s : Store) (e : Entity) : Except Error Store :=
  match s.faults.failSaves with
  | some 0 => .error localUnavailable
  | some (n + 1) => .ok ({ s with faults := { s.faults with failSaves := some n } }.saveEntity e)
  | none => .ok (s.saveEntity e)

def kindTextOf? (s : Store) (id : String) : Option String :=
  match s.entities.get? id with
  | some e => some e.kind.name
  | none => (s.strays.get? id).bind fun cells => (Entity.cellAt cells 1).text?

def removeEntity (s : Store) (id : String) : Bool × Store :=
  match s.kindTextOf? id with
  | none => (false, s)
  | some kind =>
    (true, ({ s with entities := s.entities.erase id, strays := s.strays.erase id }).record
      { entityType := kind, entityId := id, kind := .entityRemoved, actor := s.actor
        comment := some "remove_entity" })

/-- Remove a local item unless removals are failing; whether it was there. -/
def removeItem (s : Store) (id : String) : Except Error (Bool × Store) :=
  if s.faults.failRemoves then .error localUnavailable else .ok (s.removeEntity id)

def list (s : Store) (k : Kind) : List Entity := s.entities.values.filter (·.kind == k)

def count (s : Store) (k : Kind) : Nat :=
  (s.list k).length +
    (s.strays.values.filter fun cells => Entity.cellAt cells 1 == .text k.name).length

def countAll (s : Store) : Nat := (Kind.all.map s.count).foldl (· + ·) 0

/-- The local items a durable store lists with a kind: the rows whose kind column holds its name,
read back, or why one of them does not read. -/
def listRows (s : Store) (k : Kind) : Except String (List Entity) := do
  let strays ← (s.strays.values.filter fun cells => Entity.cellAt cells 1 == .text k.name).mapM
    Entity.ofRow
  return s.list k ++ strays

/-- Every local item listed with a kind, kind by kind, or why a row of them does not read. -/
def readAll (s : Store) : Except String (List Entity) :=
  List.flatten <$> Kind.all.mapM s.listRows

/-- The audit rows of one subject, newest first, at most `limit` (default 100) of them read,
of which those of a kind this store does not know are left out. -/
def auditOf (s : Store) (entityType entityId : String) (limit : Option Nat) : List AuditRow :=
  ((s.audit.filter fun r => r.entityType == entityType && r.entityId == entityId).take
    (limit.getD 100)).filter (·.kind.isKnown)

end Store

end TrackerSync
