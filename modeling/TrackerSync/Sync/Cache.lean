import TrackerSync.Store.Basic
import TrackerSync.Snapshot.Codec
import TrackerSync.Sync.Event

/-!
The cache of remote snapshots: an entry counts while fresh, and reading a stale or unreadable
one removes it.
-/

namespace TrackerSync

def i64Max : Int := 9223372036854775807

def i64Min : Int := -9223372036854775808

def clampI64 (x : Int) : Int := max i64Min (min i64Max x)

/-- A cached snapshot of a remote item. -/
structure CacheEntry where
  remoteId : String
  snapshot : Snapshot
  /-- Unix milliseconds. -/
  fetchedAt : Int
  deriving Inhabited

namespace CacheEntry

/-- The stored JSON of an entry (its remote id is the key, not part of the text). -/
def toJson (e : CacheEntry) : Json :=
  Json.record [("snapshot", e.snapshot.toJson), ("fetched_at", Json.ofInt e.fetchedAt)]

def shape : Json.Shape :=
  .record "CacheEntry" [("snapshot", Snapshot.shape, .required),
    ("fetched_at", Entity.i64Shape, .required)]

def decode (remoteId raw : String) : Except String CacheEntry :=
  match shape.decode raw with
  | .ok j => .ok { remoteId, snapshot := Snapshot.ofChecked ((j.get? "snapshot").getD .null)
                   fetchedAt := Entity.intOf ((j.get? "fetched_at").getD .null) }
  | .error e => .error e.text

end CacheEntry

/-- The time to live of the cache and the current time, in milliseconds. -/
structure CacheClock where
  ttl : Nat := 300000
  now : Int

/-- Counts of entries. -/
structure CacheSummary where
  total : Nat
  fresh : Nat
  stale : Nat

/-- An action on a store that emits events and may fail; what it did before failing stays. -/
abbrev StoreAct := ExceptT Error (StateM (Store × List Event))

namespace StoreAct

def emit (e : Event) : StoreAct Unit := modify fun (s, es) => (s, es ++ [e])

def store : StoreAct Store := return (← get).1

def setStore (s : Store) : StoreAct Unit := modify fun (_, es) => (s, es)

def writeBatch (ws : List Write) : StoreAct Unit := do
  let (s, e) := (← store).writeBatch ws
  setStore s
  match e with
  | some e => throw e
  | none => pure ()

def delete (ns key : String) : StoreAct Bool := do
  match (← store).delete ns key with
  | .ok (b, s) => setStore s; return b
  | .error e => throw e

/-- Run an action from a store; the result, the store after it and the events. -/
def run {α : Type} (act : StoreAct α) (s : Store) : Except Error α × Store × List Event :=
  let (r, s, es) := (ExceptT.run act).run (s, [])
  (r, s, es)

end StoreAct

namespace Cache

def isFreshEntry (c : CacheClock) (e : CacheEntry) : Bool :=
  clampI64 (c.now - e.fetchedAt) < min (c.ttl : Int) i64Max

def putOp (c : CacheClock) (remoteId : String) (snap : Snapshot) : Write :=
  .put nsCache remoteId (Json.compact ({ remoteId, snapshot := snap, fetchedAt := c.now } : CacheEntry).toJson)

def put (c : CacheClock) (remoteId : String) (snap : Snapshot) : StoreAct Unit :=
  StoreAct.writeBatch [putOp c remoteId snap]

def evict (remoteId : String) : StoreAct Unit := do
  if ← StoreAct.delete nsCache remoteId then StoreAct.emit (.cacheEvicted remoteId)

/-- The entry of a remote id; an unreadable one is evicted and reads as none. -/
def load (remoteId : String) : StoreAct (Option CacheEntry) := do
  match (← StoreAct.store).get nsCache remoteId with
  | none => return none
  | some raw =>
    match CacheEntry.decode remoteId raw with
    | .ok e => return some e
    | .error _ => evict remoteId; return none

/-- The fresh snapshot of a remote id; a stale entry is evicted. -/
def get (c : CacheClock) (remoteId : String) : StoreAct (Option Snapshot) := do
  match ← load remoteId with
  | none => return none
  | some e =>
    if isFreshEntry c e then return some e.snapshot
    else evict remoteId; return none

def isFresh (c : CacheClock) (remoteId : String) : StoreAct Bool := do
  return (← load remoteId).any (isFreshEntry c)

/-- Drop one entry, or all when no id is given; how many were dropped. -/
def invalidate (remoteId : Option String) : StoreAct Nat := do
  match remoteId with
  | some id => return if ← StoreAct.delete nsCache id then 1 else 0
  | none =>
    let (n, s) := (← StoreAct.store).clear nsCache
    StoreAct.setStore s
    return n

def entries : StoreAct (List CacheEntry) := do
  (← StoreAct.store).keys nsCache |>.filterMapM load

def size : StoreAct Nat := return ((← StoreAct.store).keys nsCache).length

def summary (c : CacheClock) : StoreAct CacheSummary := do
  let es ← entries
  let fresh := (es.filter (isFreshEntry c)).length
  return { total := es.length, fresh, stale := es.length - fresh }

end Cache

end TrackerSync
