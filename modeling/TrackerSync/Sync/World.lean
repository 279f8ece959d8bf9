import TrackerSync.Sync.Cache
import TrackerSync.Sync.Links
import TrackerSync.Sync.Options
import TrackerSync.Remote.Tracker
import TrackerSync.Collection

/-!
The world a sync run acts on, and the `SyncM` state monad over it.
-/

namespace TrackerSync

/-- Everything a sync run reads and changes. -/
structure World where
  store : Store
  tracker : Remote.Tracker := {}
  /-- The cache's clock, Unix milliseconds. -/
  clock : Int
  /-- The time stamped on local items and records a run writes, Unix milliseconds. -/
  wallClock : Int
  /-- Events emitted so far, oldest first. -/
  events : List Event := []
  phase : Phase := .init
  /-- Set: entities not yet started are cancelled. -/
  cancelled : Bool := false
  /-- `some n`: the cancel flag is set when `n` more entities have been committed. -/
  commitsBeforeCancel : Option Nat := none
  /-- How many local ids have been minted. -/
  minted : Nat := 0
  /-- A signal that arrives while a request with this method (any case) and endpoint is
  with the tracker. -/
  signalOn : Option (String × String) := none
  /-- What the store and the tracker held when a signal ended the process, if one did. -/
  endedAt : Option (Store × Remote.Tracker) := none
  deriving Inhabited

/-- A sync action: a state update of the world with a result. -/
abbrev SyncM := StateM World

/-- How a run is carried out. -/
structure Runner where
  options : SyncOptions := {}
  perPage : Nat := defaultPerPage
  maxPages : Nat := defaultMaxPages
  /-- The cache's time to live, milliseconds. -/
  ttl : Nat := 300000
  /-- How many entities start before the run looks at the results so far. -/
  roundSize : Nat := 61
  /-- Whether the entities of a round start together: the cancel flag is then read once, when
  the round starts, rather than as each entity starts. -/
  startsTogether : Bool := false
  /-- Send one request to the tracker. -/
  send : Remote.Method → String → Remote.Params → SyncM (Except Remote.Failure Remote.Response)
  /-- What another writer does when the apply phase begins. -/
  onApply : World → World := id

namespace World

def emit (w : World) (e : Event) : World :=
  let w := { w with events := w.events ++ [e] }
  match e, w.commitsBeforeCancel with
  | .entityCommitted _ _ _, some (n + 1) =>
    { w with commitsBeforeCancel := some n, cancelled := w.cancelled || n == 0 }
  | _, _ => w

def hex12 (n : Nat) : String :=
  String.ofList ((List.range 12).reverse.map fun i => Json.hexDigit (n / Nat.pow 16 i % 16))

def mintedId (kind : Kind) (n : Nat) : String := kind.idPrefix ++ "_" ++ hex12 n

/-- The first counter from `n` on, trying at most `fuel` of them, whose id is not taken. -/
def firstFree (taken : Nat → Bool) : Nat → Nat → Nat
  | 0, n => n
  | fuel + 1, n => if taken n then firstFree taken fuel (n + 1) else n

/-- Mint a fresh local id for a kind: the next counter whose id no local item holds (of `k + 1`
counters at most `k` are held, so that many tries find one). -/
def mint (w : World) (kind : Kind) : String × World :=
  let n := firstFree (fun n => w.store.hasRow (mintedId kind (n + 1)))
    (w.store.entities.size + w.store.strays.size + 1) w.minted
  (mintedId kind (n + 1), { w with minted := n + 1 })

end World

namespace SyncM

def emit (e : Event) : SyncM Unit := modify (·.emit e)

def emitAll (es : List Event) : SyncM Unit := es.forM emit

/-- Run a store action on the world's store; its events are emitted. -/
def store {α : Type} (act : StoreAct α) : SyncM (Except Error α) := do
  let w ← get
  let (r, s, es) := act.run w.store
  set { w with store := s }
  emitAll es
  return r

def cacheClock (r : Runner) : SyncM CacheClock := do
  return { ttl := r.ttl, now := (← get).clock }

/-- Enter a phase and emit `phase_changed`; entering the apply phase lets the other writer act. -/
def setPhase (r : Runner) (p : Phase) : SyncM Unit := do
  modify fun w => { w with phase := p }
  emit (.phaseChanged p)
  match p with
  | .apply => modify r.onApply
  | _ => pure ()

/-- The local id linked to a remote id, with a corrupt link read as none. -/
def localFor (remoteId : String) : SyncM (Option String) := do
  return ((Links.localFor (← get).store remoteId).toOption).join

def mint (kind : Kind) : SyncM String := modifyGet fun w => w.mint kind

end SyncM

def World.sendScripted (m : Remote.Method) (path : String) (params : Remote.Params) :
    SyncM (Except Remote.Failure Remote.Response) :=
  modifyGet fun w =>
    let (t, r) := w.tracker.request m path params
    (r, { w with tracker := t })

end TrackerSync
