import TrackerSync.Proofs.Sync.Accounting
import TrackerSync.Proofs.Sync.Failure
import Mathlib.Data.List.Find

/-!
Runs that differ only in what they never read give the same result and end in twin worlds.
-/

namespace TrackerSync

/-- A write whose check, when it is one, reads outside the cache entries of `ids`. -/
def Write.ReadsOutside (ids : List String) : Write → Prop
  | .require ns key _ => ns = nsCache → key ∉ ids
  | _ => True

namespace Store

def KeepsTables (f : Store → Store) : Prop := ∀ s kv, f { s with kv := kv } = { f s with kv := kv }

theorem keepsTables_record (row : AuditRow) : KeepsTables fun s => s.record row := by
  intro s kv
  by_cases durable : s.durable = true <;> simp [Store.record, durable]

theorem keepsTables_saveEntity (e : Entity) : KeepsTables fun s => s.saveEntity e := by
  intro s kv
  by_cases durable : s.durable = true <;>
    simp [Store.saveEntity, Store.keepItem_eq, Store.record, Store.hasRow, Store.statusOf?, durable]

theorem keepsTables_removeEntity (id : String) : KeepsTables fun s => (s.removeEntity id).2 := by
  intro s kv
  dsimp only
  unfold Store.removeEntity
  have kind : ({ s with kv := kv } : Store).kindTextOf? id = s.kindTextOf? id := rfl
  rw [kind]
  split
  · rfl
  · exact keepsTables_record _ { s with entities := s.entities.erase id, strays := s.strays.erase id } kv

/-- Two stores that hold the same, the cache entries of `ids` apart. -/
structure Agree (ids : List String) (s₁ s₂ : Store) : Prop where
  get : ∀ ns key, (ns = nsCache → key ∉ ids) → s₁.get ns key = s₂.get ns key
  rest : { s₁ with kv := {} } = { s₂ with kv := {} }

namespace Agree

variable {ids : List String} {s₁ s₂ s₃ : Store}

theorem refl (s : Store) : Agree ids s s := ⟨fun _ _ _ => rfl, rfl⟩

theorem symm (h : Agree ids s₁ s₂) : Agree ids s₂ s₁ :=
  ⟨fun ns key outside => (h.get ns key outside).symm, h.rest.symm⟩

theorem trans (h : Agree ids s₁ s₂) (h' : Agree ids s₂ s₃) : Agree ids s₁ s₃ :=
  ⟨fun ns key outside => (h.get ns key outside).trans (h'.get ns key outside), h.rest.trans h'.rest⟩

theorem eq_kv (h : Agree ids s₁ s₂) : s₁ = { s₂ with kv := s₁.kv } := by
  have rest := h.rest
  cases s₁
  cases s₂
  cases rest
  rfl

theorem entities (h : Agree ids s₁ s₂) : s₁.entities = s₂.entities := by
  rw [h.eq_kv]

theorem strays (h : Agree ids s₁ s₂) : s₁.strays = s₂.strays := by
  rw [h.eq_kv]

theorem faults (h : Agree ids s₁ s₂) : s₁.faults = s₂.faults := by
  rw [h.eq_kv]

theorem durable (h : Agree ids s₁ s₂) : s₁.durable = s₂.durable := by
  rw [h.eq_kv]

theorem actor (h : Agree ids s₁ s₂) : s₁.actor = s₂.actor := by
  rw [h.eq_kv]

theorem get_of_ne (h : Agree ids s₁ s₂) {ns : String} (other : ns ≠ nsCache) (key : String) :
    s₁.get ns key = s₂.get ns key :=
  h.get ns key fun same => absurd same other

theorem load (h : Agree ids s₁ s₂) (id : String) : s₁.load id = s₂.load id := by
  unfold Store.load
  rw [h.faults, h.strays, h.entities]

/-- Agreement of tables that differ on one key only where the first tables may differ. -/
theorem of_get {s₁' s₂' : Store} (h : Agree ids s₁ s₂)
    (get : ∀ ns key, (ns = nsCache → key ∉ ids) → s₁.get ns key = s₂.get ns key →
      s₁'.get ns key = s₂'.get ns key)
    (rest : { s₁' with kv := {} } = { s₂' with kv := {} }) : Agree ids s₁' s₂' :=
  ⟨fun ns key outside => get ns key outside (h.get ns key outside), rest⟩

theorem put (h : Agree ids s₁ s₂) (ns key value : String) :
    Agree ids (s₁.put ns key value) (s₂.put ns key value) :=
  h.of_get (fun ns' key' _ same => by rw [get_put, get_put, same]) h.rest

theorem remove (h : Agree ids s₁ s₂) (ns key : String) :
    Agree ids (s₁.remove ns key).2 (s₂.remove ns key).2 :=
  h.of_get (fun ns' key' _ same => by rw [get_remove, get_remove, same]) h.rest

theorem map (h : Agree ids s₁ s₂) {f : Store → Store} (keeps : KeepsTables f) :
    Agree ids (f s₁) (f s₂) := by
  have first : f s₁ = { f s₂ with kv := s₁.kv } := by rw [h.eq_kv, keeps]
  have second : f s₂ = { f s₂ with kv := s₂.kv } := keeps s₂ s₂.kv
  refine ⟨fun ns key outside => ?_, ?_⟩
  · rw [first, second]
    exact h.get ns key outside
  · rw [first]

theorem record (h : Agree ids s₁ s₂) (row : AuditRow) : Agree ids (s₁.record row) (s₂.record row) :=
  h.map (keepsTables_record row)

theorem withFaults (h : Agree ids s₁ s₂) (f : Faults) :
    Agree ids { s₁ with faults := f } { s₂ with faults := f } :=
  h.map (f := fun s => { s with faults := f }) fun _ _ => rfl

end Agree

def AgreeAfter (ids : List String) : Except Error Store → Except Error Store → Prop
  | .ok s₁, .ok s₂ => Agree ids s₁ s₂
  | .error e₁, .error e₂ => e₁ = e₂
  | _, _ => False

theorem AgreeAfter.bind {ids : List String} {o₁ o₂ : Except Error Store}
    {f : Store → Except Error Store} (h : AgreeAfter ids o₁ o₂)
    (hf : ∀ s₁ s₂, Agree ids s₁ s₂ → AgreeAfter ids (f s₁) (f s₂)) :
    AgreeAfter ids (o₁ >>= f) (o₂ >>= f) := by
  cases o₁ <;> cases o₂ <;> simp only [AgreeAfter] at h
  · exact h ▸ rfl
  · exact hf _ _ h

namespace Agree

variable {ids : List String} {s₁ s₂ : Store}

theorem applyWrite (h : Agree ids s₁ s₂) {w : Write} (reads : w.ReadsOutside ids) :
    AgreeAfter ids (s₁.applyWrite w) (s₂.applyWrite w) := by
  cases w with
  | put ns key value =>
    have put := h.put ns key value
    unfold Store.applyWrite
    rw [h.actor]
    by_cases link : (ns == nsLinkLocal) = true
    · simp only [link, ↓reduceIte]
      exact put.record _
    · by_cases base : (ns == nsBase) = true
      · simp only [link, base, ↓reduceIte, Bool.false_eq_true]
        exact put.record _
      · simp only [link, base, ↓reduceIte, Bool.false_eq_true]
        exact put
  | delete ns key =>
    have removed := h.remove ns key
    unfold Store.applyWrite
    rw [h.actor]
    by_cases link : (ns == nsLinkLocal) = true
    · simp only [link, ↓reduceIte]
      exact removed.record _
    · simp only [link, ↓reduceIte, Bool.false_eq_true]
      exact removed
  | require ns key value =>
    -- the check reads a key the two stores hold alike
    dsimp only [Store.applyWrite]
    rw [h.get ns key reads]
    split
    · exact h
    · rfl

theorem applyWrites (h : Agree ids s₁ s₂) {ws : List Write} (reads : ∀ w ∈ ws, w.ReadsOutside ids) :
    AgreeAfter ids (s₁.applyWrites ws) (s₂.applyWrites ws) := by
  induction ws generalizing s₁ s₂ with
  | nil => exact h
  | cons w rest ih =>
    have first := h.applyWrite (reads w (List.mem_cons_self ..))
    exact first.bind fun _ _ next => ih next fun w' mem => reads w' (List.mem_cons_of_mem _ mem)

theorem unmet (h : Agree ids s₁ s₂) {ws : List Write} (reads : ∀ w ∈ ws, w.ReadsOutside ids) :
    s₁.unmet ws = s₂.unmet ws := by
  unfold Store.unmet
  refine List.find?_congr fun w mem => ?_
  cases w with
  | require ns key value => simp only [h.get ns key (reads _ mem)]
  | put => rfl
  | delete => rfl

theorem commitBatch (h : Agree ids s₁ s₂) {ws : List Write} (reads : ∀ w ∈ ws, w.ReadsOutside ids) :
    AgreeAfter ids (s₁.commitBatch ws) (s₂.commitBatch ws) := by
  unfold Store.commitBatch
  rw [h.durable, h.unmet reads]
  split
  · exact h.applyWrites reads
  · split
    · rfl
    · exact h.applyWrites fun w mem => reads w (List.mem_of_mem_filter mem)

/-- What is left of writing a batch once another writer's planted write, if any, has landed. -/
theorem batchOn (h : Agree ids s₁ s₂) {ws : List Write} (reads : ∀ w ∈ ws, w.ReadsOutside ids) :
    Agree ids (if s₁.faults.failBatches then (s₁, some diskFull)
        else match s₁.commitBatch ws with
          | .ok s' => (s', none)
          | .error e => (s₁, some e)).1
      (if s₂.faults.failBatches then (s₂, some diskFull)
        else match s₂.commitBatch ws with
          | .ok s' => (s', none)
          | .error e => (s₂, some e)).1 ∧
    (if s₁.faults.failBatches then (s₁, some diskFull)
        else match s₁.commitBatch ws with
          | .ok s' => (s', none)
          | .error e => (s₁, some e)).2 =
      (if s₂.faults.failBatches then (s₂, some diskFull)
        else match s₂.commitBatch ws with
          | .ok s' => (s', none)
          | .error e => (s₂, some e)).2 := by
  rw [h.faults]
  split
  · exact ⟨h, rfl⟩
  · have committed := h.commitBatch reads
    cases h₁ : s₁.commitBatch ws <;> cases h₂ : s₂.commitBatch ws <;>
      rw [h₁, h₂] at committed <;> simp only [AgreeAfter] at committed
    · exact ⟨h, congrArg some committed⟩
    · exact ⟨committed, rfl⟩

end Agree

theorem commitBatch_require (s : Store) (ns key : String) (value : Option String) {s' : Store}
    (held : s.commitBatch [.require ns key value] = .ok s') : s' = s := by
  unfold commitBatch at held
  split at held
  · by_cases same : (s.get ns key == value) = true
    · simp only [applyWrites, applyWrite, same, ↓reduceIte] at held
      exact (Except.ok.inj held).symm
    · simp only [applyWrites, applyWrite, same, ↓reduceIte, Bool.false_eq_true] at held
      cases held
  · split at held
    · cases held
    · simp only [Write.isRequire, List.filter, Bool.not_true, applyWrites] at held
      exact (Except.ok.inj held).symm

namespace Agree

variable {ids : List String} {s₁ s₂ : Store}

/-- Another writer's planted write lands alike: a check lands as nothing, any other write reads
nothing. -/
theorem planted (h : Agree ids s₁ s₂) (w : Write) :
    Agree ids (match s₁.commitBatch [w] with
        | .ok s' => s'
        | .error _ => s₁)
      (match s₂.commitBatch [w] with
        | .ok s' => s'
        | .error _ => s₂) := by
  by_cases reads : w.ReadsOutside ids
  · have single : ∀ w' ∈ [w], w'.ReadsOutside ids := fun w' mem => by
      rw [List.mem_singleton.mp mem]
      exact reads
    have committed := h.commitBatch single
    cases h₁ : s₁.commitBatch [w] <;> cases h₂ : s₂.commitBatch [w] <;>
      rw [h₁, h₂] at committed <;> simp only [AgreeAfter] at committed
    · exact h
    · exact committed
  · cases w with
    | put => exact absurd True.intro reads
    | delete => exact absurd True.intro reads
    | require ns key value =>
      cases h₁ : s₁.commitBatch [.require ns key value] <;>
        cases h₂ : s₂.commitBatch [.require ns key value]
      · exact h
      · rw [commitBatch_require s₂ ns key value h₂]
        exact h
      · rw [commitBatch_require s₁ ns key value h₁]
        exact h
      · rw [commitBatch_require s₁ ns key value h₁, commitBatch_require s₂ ns key value h₂]
        exact h

theorem writeBatch (h : Agree ids s₁ s₂) {ws : List Write} (reads : ∀ w ∈ ws, w.ReadsOutside ids) :
    Agree ids (s₁.writeBatch ws).1 (s₂.writeBatch ws).1 ∧
      (s₁.writeBatch ws).2 = (s₂.writeBatch ws).2 := by
  unfold Store.writeBatch
  dsimp only
  refine batchOn ?_ reads
  rw [← h.faults]
  cases s₁.faults.interference with
  | none => exact h
  | some w => exact (h.withFaults _).planted w

theorem save (h : Agree ids s₁ s₂) (e : Entity) : AgreeAfter ids (s₁.save e) (s₂.save e) := by
  unfold Store.save
  rw [h.faults]
  split
  · rfl
  · exact (h.withFaults _).map (keepsTables_saveEntity e)
  · exact h.map (keepsTables_saveEntity e)

theorem removeEntity (h : Agree ids s₁ s₂) (id : String) :
    (s₁.removeEntity id).1 = (s₂.removeEntity id).1 ∧
      Agree ids (s₁.removeEntity id).2 (s₂.removeEntity id).2 := by
  have kind : s₁.kindTextOf? id = s₂.kindTextOf? id := by
    unfold Store.kindTextOf?
    rw [h.entities, h.strays]
  refine ⟨?_, h.map (keepsTables_removeEntity id)⟩
  unfold Store.removeEntity
  rw [kind]
  split <;> rfl

theorem removeItem (h : Agree ids s₁ s₂) (id : String) :
    AgreeAfter ids ((s₁.removeItem id).map (·.2)) ((s₂.removeItem id).map (·.2)) := by
  unfold Store.removeItem
  rw [h.faults]
  split
  · rfl
  · exact (h.removeEntity id).2

theorem read (h : Agree ids s₁ s₂) {ns : String} (other : ns ≠ nsCache) (key : String) :
    Links.read s₁ ns key = Links.read s₂ ns key := by
  unfold Links.read
  rw [h.get_of_ne other]

theorem localFor (h : Agree ids s₁ s₂) (remoteId : String) :
    Links.localFor s₁ remoteId = Links.localFor s₂ remoteId := by
  unfold Links.localFor
  rw [h.read (by decide)]

theorem remoteFor (h : Agree ids s₁ s₂) (localId : String) :
    Links.remoteFor s₁ localId = Links.remoteFor s₂ localId := by
  unfold Links.remoteFor
  rw [h.read (by decide)]

theorem loadBase (h : Agree ids s₁ s₂) (remoteId : String) :
    SyncState.loadBase s₁ remoteId = SyncState.loadBase s₂ remoteId := by
  unfold SyncState.loadBase
  rw [h.get_of_ne (by decide)]

theorem loadConflicts (h : Agree ids s₁ s₂) (remoteId : String) :
    SyncState.loadConflicts s₁ remoteId = SyncState.loadConflicts s₂ remoteId := by
  unfold SyncState.loadConflicts
  rw [h.get_of_ne (by decide)]

theorem linkOps (h : Agree ids s₁ s₂) (l r : String) (now : Int) :
    Links.linkOps s₁ l r now = Links.linkOps s₂ l r now := by
  unfold Links.linkOps
  rw [h.read (by decide), h.read (by decide)]

end Agree

theorem linkOps_reads {s : Store} {l r : String} {now : Int} {ops : List Write}
    (planned : Links.linkOps s l r now = .ok ops) (ids : List String) :
    ∀ w ∈ ops, w.ReadsOutside ids := by
  rcases Links.linkOps_cases planned with ⟨rawL, rawR, rfl⟩ | ⟨heldL, heldR, rfl, -⟩
  · intro w mem
    simp only [List.mem_cons, List.not_mem_nil, or_false] at mem
    rcases mem with rfl | rfl <;> exact fun link => absurd link (by decide)
  · intro w mem
    simp only [Links.newLinkWrites, Links.pairCleanup, List.cons_append, List.nil_append,
      List.mem_cons, List.not_mem_nil, or_false] at mem
    rcases mem with rfl | rfl | rfl | rfl | rfl | rfl | rfl <;>
      first
      | exact True.intro
      | exact fun link => absurd link (by decide)

namespace Agree

variable {ids : List String} {s₁ s₂ : Store}

theorem commitWith (h : Agree ids s₁ s₂) (l r : String) {extra : List Write}
    (reads : ∀ w ∈ extra, w.ReadsOutside ids) (now : Int) :
    Agree ids (Links.commitWith s₁ l r extra now).1 (Links.commitWith s₂ l r extra now).1 ∧
      (Links.commitWith s₁ l r extra now).2 = (Links.commitWith s₂ l r extra now).2 := by
  unfold Links.commitWith
  rw [h.linkOps]
  split
  · exact ⟨h, rfl⟩
  · next ops planned =>
    dsimp only
    split
    · exact ⟨h, rfl⟩
    · have all : ∀ w ∈ ops ++ extra, w.ReadsOutside ids := fun w mem => by
        rcases List.mem_append.mp mem with link | more
        · exact linkOps_reads planned ids w link
        · exact reads w more
      obtain ⟨agree, same⟩ := h.writeBatch all
      generalize s₁.writeBatch (ops ++ extra) = out₁ at agree same ⊢
      generalize s₂.writeBatch (ops ++ extra) = out₂ at agree same ⊢
      obtain ⟨t₁, failure⟩ := out₁
      obtain ⟨t₂, failure'⟩ := out₂
      dsimp only at agree same
      subst same
      -- a refused check reads the link tables again to name the link error
      cases failure with
      | none => exact ⟨agree, rfl⟩
      | some e =>
        cases e
        case writeConflict =>
          dsimp only
          rw [agree.linkOps]
          split <;> exact ⟨agree, rfl⟩
        all_goals exact ⟨agree, rfl⟩

end Agree

end Store

namespace Remote.Tracker

theorem checkPlanted_withLog (t : Tracker) (log : List Sent) (m : Method) (path : String) :
    ({ t with log := log } : Tracker).checkPlanted m path =
      ({ (t.checkPlanted m path).1 with log := log }, (t.checkPlanted m path).2) := by
  unfold checkPlanted
  dsimp only
  cases t.failures.reverse.find? fun p => p.method == m && p.path == path with
  | some p => rfl
  | none =>
    dsimp only
    cases t.budgets.find? fun p => p.method == m && p.path == path with
    | none => rfl
    | some p =>
      dsimp only
      by_cases spent : (p.allowance == some 0) = true
      · simp only [spent, ↓reduceIte]
      · simp only [spent, ↓reduceIte, Bool.false_eq_true]

theorem answerItem_withLog (t : Tracker) (log : List Sent) (m : Method) (path : String)
    (params : Params) :
    ({ t with log := log } : Tracker).answerItem m path params =
      ({ (t.answerItem m path params).1 with log := log }, (t.answerItem m path params).2) := by
  unfold answerItem
  cases splitLast path with
  | none => rfl
  | some place =>
    obtain ⟨collection, id⟩ := place
    dsimp only
    have items : ({ t with log := log } : Tracker).items collection = t.items collection := rfl
    rw [items]
    cases (t.items collection).find? (itemId · == some id) with
    | none => rfl
    | some item =>
      dsimp only
      cases m with
      | get => rfl
      | post => rfl
      | patch =>
        dsimp only
        cases (t.patchModes.get? path).getD .merge <;> rfl

theorem respond_withLog (t : Tracker) (log : List Sent) (m : Method) (path : String)
    (params : Params) :
    ({ t with log := log } : Tracker).respond m path params =
      ({ (t.respond m path params).1 with log := log }, (t.respond m path params).2) := by
  unfold respond
  rw [checkPlanted_withLog]
  generalize t.checkPlanted m path = checked
  obtain ⟨t', planted⟩ := checked
  cases planted with
  | some f => rfl
  | none =>
    dsimp only
    cases m
    case get =>
      cases natParam params "page" with
      | none => exact answerItem_withLog t' log .get path params
      | some page =>
        dsimp only
        have scripted : ({ t' with log := log } : Tracker).scripted? = t'.scripted? := rfl
        rw [scripted]
        cases t'.scripted? path (min page 4294967295) <;> rfl
    all_goals exact answerItem_withLog t' log _ path params

end Remote.Tracker

namespace World

def frame (w : World) : World := { w with store := {}, tracker := {}, events := [] }

theorem frame_emit (w : World) (e : Event) : (w.emit e).frame = (w.frame.emit e).frame := by
  cases e
  case entityCommitted =>
    unfold World.emit World.frame
    cases w.commitsBeforeCancel with
    | none => rfl
    | some n => cases n <;> rfl
  all_goals rfl

/-- Two worlds that a run cannot tell apart when it reads neither the cache entries of `ids`, nor
the events, nor the requests logged. -/
structure Twin (ids : List String) (w₁ w₂ : World) : Prop where
  store : w₁.store.Agree ids w₂.store
  tracker : { w₁.tracker with log := [] } = { w₂.tracker with log := [] }
  requests : w₁.tracker.log.filter (·.method != .get) = w₂.tracker.log.filter (·.method != .get)
  frame : w₁.frame = w₂.frame

namespace Twin

variable {ids : List String} {w₁ w₂ : World}

theorem refl (w : World) : Twin ids w w := ⟨.refl _, rfl, rfl, rfl⟩

theorem clock (h : Twin ids w₁ w₂) : w₁.clock = w₂.clock := by
  have same := congrArg World.clock h.frame
  exact same

theorem wallClock (h : Twin ids w₁ w₂) : w₁.wallClock = w₂.wallClock := by
  have same := congrArg World.wallClock h.frame
  exact same

theorem cancelled (h : Twin ids w₁ w₂) : w₁.cancelled = w₂.cancelled := by
  have same := congrArg World.cancelled h.frame
  exact same

theorem minted (h : Twin ids w₁ w₂) : w₁.minted = w₂.minted := by
  have same := congrArg World.minted h.frame
  exact same

theorem withPhase (h : Twin ids w₁ w₂) (p : Phase) :
    Twin ids { w₁ with phase := p } { w₂ with phase := p } := by
  have framed := congrArg (fun w : World => { w with phase := p }) h.frame
  exact ⟨h.store, h.tracker, h.requests, framed⟩

theorem withMinted (h : Twin ids w₁ w₂) (n : Nat) :
    Twin ids { w₁ with minted := n } { w₂ with minted := n } := by
  have framed := congrArg (fun w : World => { w with minted := n }) h.frame
  exact ⟨h.store, h.tracker, h.requests, framed⟩

theorem emit (h : Twin ids w₁ w₂) (e : Event) : Twin ids (w₁.emit e) (w₂.emit e) := by
  refine ⟨?_, ?_, ?_, ?_⟩
  · rw [World.emit_store, World.emit_store]
    exact h.store
  · rw [World.emit_tracker, World.emit_tracker]
    exact h.tracker
  · rw [World.emit_tracker, World.emit_tracker]
    exact h.requests
  · rw [frame_emit w₁, frame_emit w₂, h.frame]

theorem withStore (h : Twin ids w₁ w₂) {s₁ s₂ : Store} (agree : s₁.Agree ids s₂) :
    Twin ids { w₁ with store := s₁ } { w₂ with store := s₂ } :=
  ⟨agree, h.tracker, h.requests, h.frame⟩

theorem request (h : Twin ids w₁ w₂) (m : Remote.Method) (path : String) (params : Remote.Params) :
    (w₁.tracker.request m path params).2 = (w₂.tracker.request m path params).2 ∧
      Twin ids { w₁ with tracker := (w₁.tracker.request m path params).1 }
        { w₂ with tracker := (w₂.tracker.request m path params).1 } := by
  have same : ∀ w : World, w.tracker.request m path params =
      ({ ({ w.tracker with log := [] } : Remote.Tracker).respond m path params |>.1 with
          log := w.tracker.log ++ [⟨m, path, params⟩] },
        (({ w.tracker with log := [] } : Remote.Tracker).respond m path params).2) := fun w =>
    Remote.Tracker.respond_withLog { w.tracker with log := [] } _ m path params
  rw [same w₁, same w₂, h.tracker]
  refine ⟨rfl, h.store, rfl, ?_, h.frame⟩
  simp only [List.filter_append, h.requests]

end Twin

end World

namespace SyncM

/-- An action that runs alike from twin worlds: the same result, and twin worlds after it. -/
def Coherent {α : Type} (ids : List String) (act : SyncM α) : Prop :=
  ∀ w₁ w₂, World.Twin ids w₁ w₂ →
    (StateT.run act w₁).1 = (StateT.run act w₂).1 ∧
      World.Twin ids (StateT.run act w₁).2 (StateT.run act w₂).2

def Blind {α : Type} (ids : List String) (act : SyncM α) : Prop :=
  ∀ w₁ w₂, World.Twin ids w₁ w₂ → World.Twin ids (StateT.run act w₁).2 (StateT.run act w₂).2

section Coherent

variable {α β γ : Type} {ids : List String}

theorem Coherent.pure (a : α) : Coherent ids (Pure.pure a : SyncM α) :=
  fun _ _ twin => ⟨rfl, twin⟩

theorem Coherent.bind {x : SyncM α} {f : α → SyncM β} (hx : Coherent ids x)
    (hf : ∀ a, Coherent ids (f a)) : Coherent ids (x >>= f) := by
  intro w₁ w₂ twin
  obtain ⟨same, twin'⟩ := hx w₁ w₂ twin
  rw [run_bind, run_bind, same]
  exact hf _ _ _ twin'

theorem Coherent.seq {x : SyncM α} {k : SyncM β} (hx : Blind ids x) (hk : Coherent ids k) :
    Coherent ids (x >>= fun _ => k) := by
  intro w₁ w₂ twin
  rw [run_bind, run_bind]
  exact hk _ _ (hx w₁ w₂ twin)

theorem Coherent.get_bind {f : World → SyncM α}
    (shared : ∀ w₁ w₂, World.Twin ids w₁ w₂ → f w₁ = f w₂) (each : ∀ w, Coherent ids (f w)) :
    Coherent ids (get >>= f) := by
  intro w₁ w₂ twin
  rw [run_bind, run_bind, run_get, run_get]
  dsimp only
  rw [shared w₁ w₂ twin]
  exact each w₂ w₁ w₂ twin

theorem Coherent.ite {c : Prop} [Decidable c] {a b : SyncM α} (yes : Coherent ids a)
    (no : Coherent ids b) : Coherent ids (if c then a else b) := by
  split
  · exact yes
  · exact no

theorem Coherent.modify {g : World → World}
    (h : ∀ w₁ w₂, World.Twin ids w₁ w₂ → World.Twin ids (g w₁) (g w₂)) :
    Coherent ids (modify g : SyncM Unit) :=
  fun w₁ w₂ twin => ⟨rfl, h w₁ w₂ twin⟩

theorem Coherent.emit (e : Event) : Coherent ids (emit e) :=
  Coherent.modify fun _ _ twin => twin.emit e

theorem Coherent.forM {l : List γ} {f : γ → SyncM Unit} (h : ∀ c, Coherent ids (f c)) :
    Coherent ids (l.forM f) := by
  induction l with
  | nil => exact Coherent.pure ()
  | cons c rest ih => exact Coherent.bind (h c) fun _ => ih

theorem Coherent.emitAll (es : List Event) : Coherent ids (emitAll es) :=
  Coherent.forM Coherent.emit

theorem Coherent.setPhase {r : Runner}
    (other : ∀ w₁ w₂, World.Twin ids w₁ w₂ → World.Twin ids (r.onApply w₁) (r.onApply w₂))
    (p : Phase) : Coherent ids (setPhase r p) := by
  refine Coherent.bind (Coherent.modify fun w₁ w₂ twin => ?_) fun _ =>
    Coherent.bind (Coherent.emit _) fun _ => ?_
  · exact twin.withPhase p
  · cases p
    case apply => exact Coherent.modify other
    all_goals exact Coherent.pure ()

theorem Coherent.cacheClock (r : Runner) : Coherent ids (cacheClock r) := by
  intro w₁ w₂ twin
  refine ⟨?_, twin⟩
  show ({ ttl := r.ttl, now := w₁.clock } : CacheClock) = { ttl := r.ttl, now := w₂.clock }
  rw [twin.clock]

theorem Coherent.localFor (remoteId : String) : Coherent ids (localFor remoteId) := by
  intro w₁ w₂ twin
  rw [localFor_run, localFor_run, twin.store.localFor]
  exact ⟨rfl, twin⟩

theorem Coherent.mint (kind : Kind) : Coherent ids (mint kind) := by
  intro w₁ w₂ twin
  have rows : w₁.store.hasRow = w₂.store.hasRow := by
    funext id
    unfold Store.hasRow
    rw [twin.store.entities, twin.store.strays]
  show (w₁.mint kind).1 = (w₂.mint kind).1 ∧ World.Twin ids (w₁.mint kind).2 (w₂.mint kind).2
  unfold World.mint
  dsimp only
  rw [rows, twin.store.entities, twin.store.strays, twin.minted]
  exact ⟨rfl, twin.withMinted _⟩

theorem Blind.store {act : StoreAct γ}
    (agree : ∀ s₁ s₂, s₁.Agree ids s₂ →
      (act.run s₁).2.1.Agree ids (act.run s₂).2.1 ∧ (act.run s₁).2.2 = (act.run s₂).2.2) :
    Blind ids (store act) := by
  intro w₁ w₂ twin
  obtain ⟨stores, events⟩ := agree w₁.store w₂.store twin.store
  rw [store_run, store_run, events]
  exact (Coherent.emitAll _ _ _ (twin.withStore stores)).2

theorem Coherent.send {r : Runner} (scripted : r.send = World.sendScripted) (m : Remote.Method)
    (path : String) (params : Remote.Params) : Coherent ids (r.send m path params) := by
  rw [scripted]
  intro w₁ w₂ twin
  exact twin.request m path params

end Coherent

section Planning

variable {ids : List String}

theorem Coherent.pair (r : Runner) (kind : Kind) (remote : Snapshot) (targeted : Bool) :
    Coherent ids (SyncM.pair r kind remote targeted) := by
  unfold SyncM.pair
  refine Coherent.get_bind (fun w₁ w₂ twin => ?_) fun w => ?_
  · simp only [twin.store.localFor, twin.store.load]
  · split
    · exact Coherent.pure _
    · split <;> exact Coherent.pure _
    · split
      · refine Coherent.bind (Coherent.mint kind) fun id => ?_
        refine Coherent.get_bind (fun w₁ w₂ twin => by rw [twin.wallClock]) fun _ => ?_
        exact Coherent.pure _
      · exact Coherent.pure _

theorem Coherent.plan (r : Runner) (kind : Kind) (remote : Snapshot) (targeted : Bool) :
    Coherent ids (SyncM.plan r kind remote targeted) := by
  unfold SyncM.plan
  refine Coherent.bind (Coherent.pair r kind remote targeted) fun paired => ?_
  split
  · exact Coherent.pure _
  · exact Coherent.pure _
  · dsimp only
    refine Coherent.bind (Coherent.emitAll _) fun _ => ?_
    refine Coherent.get_bind (fun w₁ w₂ twin => by simp only [twin.store.loadBase]) fun w => ?_
    split <;> exact Coherent.pure _

theorem Coherent.planAll (r : Runner) (kind : Kind) (targeted : Bool) (remotes : List Snapshot) :
    Coherent ids (SyncM.planAll r kind targeted remotes) := by
  induction remotes with
  | nil => exact Coherent.pure _
  | cons remote rest ih =>
    refine Coherent.bind (Coherent.plan r kind remote targeted) fun head => ?_
    refine Coherent.bind ih fun planned => ?_
    obtain ⟨plans, failed, skipped⟩ := planned
    dsimp only
    split <;> exact Coherent.pure _

theorem Coherent.refresh (r : Runner) (kind : Kind) (p : Plan) :
    Coherent ids (SyncM.refresh r kind p) := by
  unfold SyncM.refresh
  refine Coherent.get_bind (fun w₁ w₂ twin => ?_) fun w => ?_
  · simp only [twin.store.loadBase, twin.store.load]
  · refine Coherent.bind (Coherent.localFor p.remoteId) fun linkNow => ?_
    dsimp only
    exact Coherent.ite (Coherent.pure _) (Coherent.plan r kind p.remote _)

end Planning

theorem Cache.invalidate_events (id : String) (s : Store) :
    ((Cache.invalidate (some id)).run s).2.2 = [] := by
  obtain ⟨durable, kv, entities, audit, actor, ⟨batches, deletes, loads, saves, planted⟩, strays⟩ := s
  cases deletes <;> rfl

section Applying

variable {ids : List String}

theorem Coherent.refreshCache (r : Runner) (p : Plan) : Coherent ids (SyncM.refreshCache r p) := by
  unfold SyncM.refreshCache
  refine Coherent.bind (Coherent.cacheClock r) fun clock => Coherent.seq ?_ (Coherent.pure ())
  refine Blind.store fun s₁ s₂ agree => ?_
  have put : ∀ w ∈ [Cache.putOp clock p.remoteId p.remote], w.ReadsOutside ids := fun w mem => by
    rw [List.mem_singleton.mp mem]
    exact True.intro
  obtain ⟨stores, -⟩ := agree.writeBatch put
  unfold Cache.put
  rw [StoreAct.writeBatch_run_eq, StoreAct.writeBatch_run_eq]
  exact ⟨stores, rfl⟩

theorem Coherent.echoed (body : Json) : Coherent ids (SyncM.echoed body) := by
  unfold SyncM.echoed
  split
  · exact Coherent.pure _
  · exact Coherent.pure _
  · exact Coherent.bind (Coherent.emitAll _) fun _ => Coherent.pure _

theorem Coherent.pushedState (p : Plan) (pushed : List FieldChange) (body : Json) :
    Coherent ids (SyncM.pushedState p pushed body) := by
  unfold SyncM.pushedState
  refine Coherent.bind (Coherent.echoed body) fun echoed => ?_
  split <;> exact Coherent.pure _

theorem Coherent.restoreLocal (p : Plan) : Coherent ids (SyncM.restoreLocal p) := by
  intro w₁ w₂ twin
  unfold SyncM.restoreLocal
  rw [run_bind _ _ w₁, run_get, run_bind _ _ w₂, run_get]
  dsimp only
  -- the item is put back into agreeing stores alike, or refused alike
  have undone : Store.AgreeAfter ids (p.undoLocal w₁.store) (p.undoLocal w₂.store) := by
    unfold Plan.undoLocal
    cases p.pairing with
    | linked before => exact twin.store.save before
    | imported created => exact twin.store.removeItem created.id
  cases h₁ : p.undoLocal w₁.store <;> cases h₂ : p.undoLocal w₂.store <;>
    rw [h₁, h₂] at undone <;> simp only [Store.AgreeAfter] at undone
  · subst undone
    exact ⟨rfl, twin⟩
  · exact ⟨rfl, twin.withStore undone⟩

theorem Coherent.saveLocal (p : Plan) (toLocal : List FieldChange) :
    Coherent ids (SyncM.saveLocal p toLocal) := by
  intro w₁ w₂ twin
  unfold SyncM.saveLocal
  rw [run_bind _ _ w₁, run_get, run_bind _ _ w₂, run_get]
  dsimp only
  generalize toLocal.foldl (fun e c => e.applyChange c.field c.value) p.pairing.entity = updated
  -- the item is stamped with the wall clock the twins share
  have saved : Store.AgreeAfter ids (w₁.store.save { updated with updatedAt := w₁.wallClock })
      (w₂.store.save { updated with updatedAt := w₂.wallClock }) := by
    rw [twin.wallClock]
    exact twin.store.save _
  cases h₁ : w₁.store.save { updated with updatedAt := w₁.wallClock } <;>
    cases h₂ : w₂.store.save { updated with updatedAt := w₂.wallClock } <;>
    rw [h₁, h₂] at saved <;> simp only [Store.AgreeAfter] at saved
  · subst saved
    exact ⟨rfl, twin⟩
  · exact ⟨rfl, twin.withStore saved⟩

theorem Coherent.commit (r : Runner) (p : Plan) (remoteAfter : Snapshot) (nextBase : StoredBase)
    (conflicts : ConflictSet) : Coherent ids (SyncM.commit r p remoteAfter nextBase conflicts) := by
  unfold SyncM.commit
  refine Coherent.bind (Coherent.cacheClock r) fun clock => ?_
  intro w₁ w₂ twin
  rw [run_bind _ _ w₁, run_get, run_bind _ _ w₂, run_get]
  dsimp only
  have writes : ∀ w ∈ [Cache.putOp clock p.remoteId remoteAfter, SyncState.baseOp p.remoteId nextBase,
      SyncState.conflictsOp conflicts], w.ReadsOutside ids := by
    intro w mem
    simp only [List.mem_cons, List.not_mem_nil, or_false] at mem
    rcases mem with rfl | rfl | rfl
    · exact True.intro
    · exact True.intro
    · unfold SyncState.conflictsOp
      split <;> exact True.intro
  generalize [Cache.putOp clock p.remoteId remoteAfter, SyncState.baseOp p.remoteId nextBase,
    SyncState.conflictsOp conflicts] = ws at writes ⊢
  -- the link is stamped with the wall clock the twins share
  have committed : Store.Agree ids (Links.commitWith w₁.store p.localId p.remoteId ws w₁.wallClock).1
      (Links.commitWith w₂.store p.localId p.remoteId ws w₂.wallClock).1 ∧
      (Links.commitWith w₁.store p.localId p.remoteId ws w₁.wallClock).2 =
        (Links.commitWith w₂.store p.localId p.remoteId ws w₂.wallClock).2 := by
    rw [twin.wallClock]
    exact twin.store.commitWith p.localId p.remoteId writes w₂.wallClock
  obtain ⟨stores, same⟩ := committed
  exact ⟨congrArg (Except.mapError Error.link) same, twin.withStore stores⟩

section Sending

variable {r : Runner} (scripted : r.send = World.sendScripted)
include scripted

theorem Coherent.revertPush (p : Plan) (itemPath : String) (pushed : List FieldChange) :
    Coherent ids (SyncM.revertPush r p itemPath pushed) := by
  unfold SyncM.revertPush
  refine Coherent.bind (Coherent.send scripted _ _ _) fun answer => ?_
  split <;> exact Coherent.pure _

theorem Coherent.compensate (p : Plan) (itemPath : String) (pushed : List FieldChange)
    (localWritten : Bool) : Coherent ids (SyncM.compensate r p itemPath pushed localWritten) := by
  unfold SyncM.compensate
  -- whether the cache entry was there is not looked at
  refine Coherent.seq (Blind.store fun s₁ s₂ agree => ?_) ?_
  · refine ⟨?_, by rw [Cache.invalidate_events, Cache.invalidate_events]⟩
    rw [Cache.invalidate_store, Cache.invalidate_store, agree.faults]
    split
    · exact agree
    · exact agree.remove nsCache p.remoteId
  · refine Coherent.bind (Coherent.ite (Coherent.restoreLocal p) (Coherent.pure _)) fun restored => ?_
    refine Coherent.bind (Coherent.ite (Coherent.pure _) (Coherent.revertPush scripted p itemPath pushed))
      fun reverted => ?_
    exact Coherent.ite (Coherent.emit _) (Coherent.pure ())

theorem Coherent.push (p : Plan) (itemPath : String) (toRemote : List FieldChange) :
    Coherent ids (SyncM.push r p itemPath toRemote) := by
  unfold SyncM.push
  refine Coherent.ite (Coherent.pure _) ?_
  refine Coherent.bind (Coherent.send scripted _ _ _) fun answer => ?_
  split
  · exact Coherent.pure _
  · refine Coherent.bind (Coherent.pushedState p toRemote _) fun after => ?_
    refine Coherent.ite (Coherent.pure _) ?_
    exact Coherent.bind (Coherent.compensate scripted p itemPath toRemote false) fun _ =>
      Coherent.pure _

theorem Coherent.apply (collection : Collection) (p : Plan) :
    Coherent ids (SyncM.apply r collection p) := by
  unfold SyncM.apply
  split
  · exact Coherent.bind (Coherent.refreshCache r p) fun _ => Coherent.pure _
  · next d _ =>
    refine Coherent.get_bind (fun w₁ w₂ twin => by rw [twin.wallClock]) fun w => ?_
    refine Coherent.get_bind (fun w₁ w₂ twin => by simp only [twin.store.loadConflicts]) fun v => ?_
    split
    · exact Coherent.pure _
    · refine Coherent.ite (Coherent.bind (Coherent.refreshCache r p) fun _ => Coherent.pure _) ?_
      refine Coherent.bind (Coherent.push scripted p _ _) fun pushed => ?_
      split
      · exact Coherent.pure _
      · -- the commit is the join point of both branches, so it is met twice
        dsimp only
        refine Coherent.ite (Coherent.bind (Coherent.saveLocal p _) fun saved => ?_) ?_
        · split
          · exact Coherent.bind (Coherent.compensate scripted p _ _ false) fun _ => Coherent.pure _
          · refine Coherent.bind (Coherent.commit r p _ _ _) fun committed => ?_
            split
            · exact Coherent.bind (Coherent.compensate scripted p _ _ _) fun _ => Coherent.pure _
            · exact Coherent.pure _
        · refine Coherent.bind (Coherent.commit r p _ _ _) fun committed => ?_
          split
          · exact Coherent.bind (Coherent.compensate scripted p _ _ _) fun _ => Coherent.pure _
          · exact Coherent.pure _

theorem Coherent.process (collection : Collection) (abort : Bool) (p : Plan) :
    Coherent ids (SyncM.process r collection abort p) := by
  unfold SyncM.process
  refine Coherent.get_bind (fun w₁ w₂ twin => by rw [twin.cancelled]) fun w => ?_
  refine Coherent.ite (Coherent.pure _) ?_
  refine Coherent.bind (Coherent.refresh r collection.kind p) fun refreshed => ?_
  split
  · exact Coherent.pure _
  · exact Coherent.pure _
  · refine Coherent.bind (Coherent.apply scripted collection _) fun applied => ?_
    split
    · dsimp only
      -- the conflicts are announced whether or not the commit was
      refine Coherent.ite (Coherent.bind (Coherent.emit _) fun _ => ?_) ?_ <;>
        exact Coherent.bind (Coherent.forM fun c => Coherent.emit _) fun _ => Coherent.pure _
    · exact Coherent.bind (Coherent.emit _) fun _ => Coherent.pure _

theorem Coherent.processRound (collection : Collection) (abort : Bool) (plans : List Plan) :
    Coherent ids (SyncM.processRound r collection abort plans) := by
  induction plans with
  | nil => exact Coherent.pure _
  | cons p rest ih =>
    refine Coherent.bind (Coherent.process scripted collection abort p) fun head => ?_
    exact Coherent.bind ih fun _ => Coherent.pure _

theorem Coherent.processRounds (collection : Collection) (fatal : Option SyncError)
    (rounds : List (List Plan)) : Coherent ids (SyncM.processRounds r collection fatal rounds) := by
  induction rounds generalizing fatal with
  | nil => exact Coherent.pure _
  | cons round rest ih =>
    unfold SyncM.processRounds
    -- the cancel flag read before a round is part of the frame twins share
    refine Coherent.get_bind (fun w₁ w₂ twin => by rw [twin.cancelled]) fun w => ?_
    refine Coherent.bind (Coherent.processRound scripted collection _ round) fun results => ?_
    exact Coherent.bind (ih _) fun _ => Coherent.pure _

/-- Comparing, applying and reporting give the same result from twin worlds, and end in twins. -/
theorem execute_coherent
    (other : ∀ w₁ w₂, World.Twin ids w₁ w₂ → World.Twin ids (r.onApply w₁) (r.onApply w₂))
    (collection : Collection) (remotes : List Snapshot) (failed : List EntityReport)
    (targeted : Bool) : Coherent ids (SyncM.execute r collection remotes failed targeted) := by
  unfold SyncM.execute
  refine Coherent.bind (Coherent.setPhase other _) fun _ => ?_
  refine Coherent.bind (Coherent.planAll r collection.kind targeted remotes) fun planned => ?_
  obtain ⟨plans, planFailed, skipped⟩ := planned
  dsimp only
  refine Coherent.bind (Coherent.setPhase other _) fun _ => ?_
  -- the report is built alike after a dry run and after processing
  refine Coherent.ite (Coherent.bind (Coherent.pure _) fun processed => ?_)
    (Coherent.bind (Coherent.processRounds scripted collection none _) fun processed => ?_)
  all_goals
    split
    · exact Coherent.bind (Coherent.setPhase other _) fun _ => Coherent.pure _
    · refine Coherent.bind (Coherent.setPhase other _) fun _ => ?_
      exact Coherent.bind (Coherent.setPhase other _) fun _ => Coherent.pure _

end Sending

end Applying

end SyncM

end TrackerSync
