import TrackerSync.Proofs.Sync.Footprint

/-!
What carrying out a plan does, step by step: `SyncM.Effect` for the store and the log, and the
lists of ways a push and a whole plan can end.
-/

namespace TrackerSync

namespace Plan

/-- The store after a plan's local item is put back; a refused save or removal changes
nothing. -/
def restore (p : Plan) (s : Store) : Store :=
  match p.undoLocal s with
  | .ok s' => s'
  | .error _ => s

/-- The store after a plan is compensated: its cache entry dropped, and its local item put back
when it was written. -/
def compensated (p : Plan) (localWritten : Bool) (s : Store) : Store :=
  let s := ((Cache.invalidate (some p.remoteId)).run s).2.1
  if localWritten then p.restore s else s

def revertRequest (p : Plan) (itemPath : String) (pushed : List FieldChange) : Remote.Sent :=
  ⟨.patch, itemPath, fieldParams (pushed.map fun c => (c.field, p.remote.get c.field))⟩

def toRemote (p : Plan) : List FieldChange := p.changes.filter (·.direction == .toRemote)

def toLocal (p : Plan) : List FieldChange := p.changes.filter (·.direction == .toLocal)

def itemPath (collection : Collection) (p : Plan) : String :=
  Remote.trimTrailingSlashes collection.endpoint ++ "/" ++ p.remoteId

def writesLocal (p : Plan) : Bool := !p.toLocal.isEmpty || p.pairing.isImport

def updated (p : Plan) (now : Int) : Entity :=
  { p.toLocal.foldl (fun e c => e.applyChange c.field c.value) p.pairing.entity with
    updatedAt := now }

/-- `saved` is the store after the local save of the plan, when it makes one. -/
def Saves (p : Plan) (now : Int) (s saved : Store) : Prop :=
  if p.writesLocal then s.save (p.updated now) = .ok saved else saved = s

/-- The writes a commit adds to the link: the cache entry, the next base and the open conflicts. -/
def commitWrites (p : Plan) (d : Detection) (clock : CacheClock) (remoteAfter : Snapshot)
    (now : Int) : List Write :=
  [Cache.putOp clock p.remoteId remoteAfter,
    SyncState.baseOp p.remoteId (StoredBase.ofSnapshot (d.nextBase remoteAfter)),
    SyncState.conflictsOp
      { localId := p.localId, remoteId := p.remoteId, detectedAt := now, conflicts := d.conflicts }]

end Plan

namespace SyncM

/-- Every run of the action takes the store `s` to `f s`, adds `sent` to the tracker's log and
keeps both clocks. -/
def Effect {α : Type} (f : Store → Store) (sent : List Remote.Sent) (act : SyncM α) : Prop :=
  ∀ w, (StateT.run act w).2.store = f w.store ∧
    (StateT.run act w).2.tracker.log = w.tracker.log ++ sent ∧
    (StateT.run act w).2.clock = w.clock ∧ (StateT.run act w).2.wallClock = w.wallClock

variable {α β : Type}

theorem Effect.bind {f g : Store → Store} {l m : List Remote.Sent} {x : SyncM α}
    {k : α → SyncM β}
    (hx : Effect f l x) (hk : ∀ a, Effect g m (k a)) : Effect (g ∘ f) (l ++ m) (x >>= k) := by
  intro w
  obtain ⟨s₁, l₁, c₁, n₁⟩ := hx w
  obtain ⟨s₂, l₂, c₂, n₂⟩ := hk (StateT.run x w).1 (StateT.run x w).2
  rw [StateT.run_bind]
  exact ⟨s₂.trans (congrArg g s₁), l₂.trans (by rw [l₁, List.append_assoc]), c₂.trans c₁,
    n₂.trans n₁⟩

theorem Effect.pure (a : α) : Effect id [] (Pure.pure a : SyncM α) :=
  fun _ => ⟨rfl, (List.append_nil _).symm, rfl, rfl⟩

theorem emit_clocks (w : World) (e : Event) :
    (w.emit e).clock = w.clock ∧ (w.emit e).wallClock = w.wallClock := by
  unfold World.emit
  dsimp only
  split <;> exact ⟨rfl, rfl⟩

theorem Effect.emit (e : Event) : Effect id [] (emit e) := fun w =>
  ⟨World.emit_store w e, by rw [List.append_nil]; exact congrArg _ (World.emit_tracker w e),
    emit_clocks w e⟩

theorem Effect.emitAll (es : List Event) : Effect id [] (emitAll es) := by
  induction es with
  | nil => exact Effect.pure ()
  | cons e rest ih => exact Effect.bind (Effect.emit e) fun _ => ih

theorem Effect.store (act : StoreAct α) : Effect (fun s => (act.run s).2.1) [] (store act) := by
  intro w
  rw [store_run]
  obtain ⟨s, l, c, n⟩ :=
    Effect.emitAll (act.run w.store).2.2 { w with store := (act.run w.store).2.1 }
  exact ⟨s, l, c, n⟩

theorem Effect.send {r : Runner} (logged : r.Logged) (m : Remote.Method) (path : String)
    (params : Remote.Params) : Effect id [⟨m, path, params⟩] (r.send m path params) := by
  intro w
  obtain ⟨t, sent, log⟩ := logged m path params w
  rw [sent]
  exact ⟨rfl, log, rfl, rfl⟩

theorem Effect.of_eq {f g : Store → Store} {l m : List Remote.Sent} {act : SyncM α}
    (h : Effect f l act) (sameStore : ∀ s, f s = g s) (sameLog : l = m) : Effect g m act := by
  intro w
  obtain ⟨s, log, c, n⟩ := h w
  exact ⟨(s.trans (sameStore _)), sameLog ▸ log, c, n⟩

theorem run_bind (x : SyncM α) (f : α → SyncM β) (w : World) :
    StateT.run (x >>= f) w = StateT.run (f (StateT.run x w).1) (StateT.run x w).2 := rfl

theorem run_get (w : World) : StateT.run (get : SyncM World) w = (w, w) := rfl

theorem restoreLocal_effect (p : Plan) : Effect p.restore [] (restoreLocal p) := by
  intro w
  unfold restoreLocal Plan.restore
  rw [StateT.run_bind, StateT.run_get, pure_bind]
  dsimp only
  cases p.undoLocal w.store with
  | ok s => exact ⟨rfl, (List.append_nil _).symm, rfl, rfl⟩
  | error e => exact ⟨rfl, (List.append_nil _).symm, rfl, rfl⟩

theorem revertPush_effect {r : Runner} (logged : r.Logged) (p : Plan) (itemPath : String)
    (pushed : List FieldChange) :
    Effect id [p.revertRequest itemPath pushed] (revertPush r p itemPath pushed) := by
  unfold revertPush
  refine Effect.of_eq (Effect.bind (g := id) (m := []) (Effect.send logged _ _ _) fun answer => ?_)
    (fun _ => rfl) (List.append_nil _)
  split <;> exact Effect.pure _

theorem compensate_effect {r : Runner} (logged : r.Logged) (p : Plan) (itemPath : String)
    (pushed : List FieldChange) (localWritten : Bool) :
    Effect (p.compensated localWritten)
      (if pushed.isEmpty then [] else [p.revertRequest itemPath pushed])
      (compensate r p itemPath pushed localWritten) := by
  have restored : Effect (if localWritten then p.restore else id) []
      (if localWritten then restoreLocal p else Pure.pure []) := by
    cases localWritten
    · exact Effect.pure _
    · exact restoreLocal_effect p
  have reverted : Effect id (if pushed.isEmpty then [] else [p.revertRequest itemPath pushed])
      (if pushed.isEmpty then Pure.pure [] else revertPush r p itemPath pushed) := by
    cases pushed.isEmpty
    · exact revertPush_effect logged p itemPath pushed
    · exact Effect.pure _
  unfold compensate
  refine Effect.of_eq (Effect.bind (Effect.store _) fun _ =>
    Effect.bind restored fun restoredDetail =>
      Effect.bind (g := id) (m := []) reverted fun revertedDetail => ?_)
    (fun s => ?_) (by simp)
  · dsimp only
    split
    · exact Effect.emit _
    · exact Effect.pure ()
  · cases localWritten <;> rfl


theorem echoed_effect (body : Json) : Effect id [] (echoed body) := by
  unfold echoed
  split
  · exact Effect.pure _
  · exact Effect.pure _
  · exact Effect.bind (g := id) (m := []) (Effect.emitAll _) fun _ => Effect.pure _

theorem pushedState_effect (p : Plan) (pushed : List FieldChange) (body : Json) :
    Effect id [] (pushedState p pushed body) := by
  unfold pushedState
  refine Effect.bind (g := id) (m := []) (echoed_effect body) fun echoed => ?_
  split <;> exact Effect.pure _

/-- The requests of a push: one `PATCH` of the pushed values, when there are any. -/
def pushes (itemPath : String) (toRemote : List FieldChange) : List Remote.Sent :=
  if toRemote.isEmpty then [] else [⟨.patch, itemPath, fieldParams (pushedFields toRemote)⟩]

def reverts (p : Plan) (itemPath : String) (toRemote : List FieldChange) : List Remote.Sent :=
  if toRemote.isEmpty then [] else [p.revertRequest itemPath toRemote]

/-- The ways a push can end, with the store and the tracker's log it leaves, from the store `s`
and the log `log`. -/
inductive PushOutcome (p : Plan) (itemPath : String) (toRemote : List FieldChange) (s : Store)
    (log : List Remote.Sent) : Except Error Snapshot → Store → List Remote.Sent → Prop
  /-- The pushed values, if any, hold on the tracker. -/
  | pushed (after : Snapshot) (kept : ∀ c ∈ toRemote, after.get c.field = c.value) :
      PushOutcome p itemPath toRemote s log (.ok after) s (log ++ pushes itemPath toRemote)
  /-- The tracker refused the push. -/
  | refused (f : Remote.Failure) : toRemote ≠ [] →
      PushOutcome p itemPath toRemote s log (.error (.remote f)) s (log ++ pushes itemPath toRemote)
  /-- The tracker did not keep a pushed value: the push is compensated. -/
  | ignored (e : Error) : toRemote ≠ [] →
      PushOutcome p itemPath toRemote s log (.error e) (p.compensated false s)
        (log ++ pushes itemPath toRemote ++ reverts p itemPath toRemote)

theorem push_outcome {r : Runner} (logged : r.Logged) (p : Plan) (itemPath : String)
    (toRemote : List FieldChange) (w : World) :
    PushOutcome p itemPath toRemote w.store w.tracker.log
        (StateT.run (push r p itemPath toRemote) w).1
        (StateT.run (push r p itemPath toRemote) w).2.store
        (StateT.run (push r p itemPath toRemote) w).2.tracker.log ∧
      (StateT.run (push r p itemPath toRemote) w).2.clock = w.clock ∧
      (StateT.run (push r p itemPath toRemote) w).2.wallClock = w.wallClock := by
  unfold push
  by_cases empty : toRemote.isEmpty
  · rw [if_pos empty]
    have nothing : toRemote = [] := List.isEmpty_iff.mp empty
    refine ⟨?_, rfl, rfl⟩
    have pushedNothing : PushOutcome p itemPath toRemote w.store w.tracker.log (.ok p.remote)
        w.store (w.tracker.log ++ pushes itemPath toRemote) :=
      PushOutcome.pushed p.remote (by simp [nothing])
    rwa [pushes, if_pos empty, List.append_nil] at pushedNothing
  · have some : toRemote ≠ [] := fun h => empty (List.isEmpty_iff.mpr h)
    have sentOne :
        pushes itemPath toRemote = [⟨.patch, itemPath, fieldParams (pushedFields toRemote)⟩] := by
      rw [pushes, if_neg empty]
    rw [if_neg empty, run_bind]
    obtain ⟨t, sent, log⟩ := logged .patch itemPath (fieldParams (pushedFields toRemote)) w
    generalize StateT.run (r.send .patch itemPath (fieldParams (pushedFields toRemote))) w = out
      at sent ⊢
    obtain ⟨answer, w₁⟩ := out
    cases sent
    cases answer with
    | error f =>
      refine ⟨?_, rfl, rfl⟩
      show PushOutcome p itemPath toRemote w.store w.tracker.log (.error (.remote f)) w.store t.log
      rw [log, ← sentOne]
      exact PushOutcome.refused f some
    | ok response =>
      dsimp only
      rw [run_bind]
      obtain ⟨s₂, l₂, c₂, n₂⟩ :=
        pushedState_effect p toRemote response.body { w with tracker := t }
      generalize StateT.run (pushedState p toRemote response.body) { w with tracker := t } = out
        at s₂ l₂ c₂ n₂ ⊢
      obtain ⟨after, w₂⟩ := out
      dsimp only at s₂ l₂ c₂ n₂ ⊢
      split
      · next kept =>
        refine ⟨?_, c₂, n₂⟩
        show PushOutcome p itemPath toRemote w.store w.tracker.log (.ok after) w₂.store
          w₂.tracker.log
        rw [s₂, l₂, log, List.append_nil, ← sentOne]
        refine PushOutcome.pushed after fun c mem => ?_
        have := List.isEmpty_iff.mp kept
        simpa using List.filter_eq_nil_iff.mp this c mem
      · rw [run_bind]
        obtain ⟨s₃, l₃, c₃, n₃⟩ :=
          compensate_effect logged p itemPath toRemote false w₂
        refine ⟨?_, c₃.trans c₂, n₃.trans n₂⟩
        show PushOutcome p itemPath toRemote w.store w.tracker.log (.error _)
          (StateT.run (compensate r p itemPath toRemote false) w₂).2.store
          (StateT.run (compensate r p itemPath toRemote false) w₂).2.tracker.log
        rw [s₃, l₃, s₂, l₂, log, List.append_nil, ← sentOne]
        exact PushOutcome.ignored _ some


theorem saveLocal_run (p : Plan) (w : World) :
    StateT.run (saveLocal p p.toLocal) w =
      match w.store.save (p.updated w.wallClock) with
      | .ok s => (.ok (), { w with store := s })
      | .error e => (.error e, w) := by
  unfold saveLocal
  rw [run_bind, run_get]
  dsimp only
  split
  · next s saved => rw [Plan.updated, saved]; rfl
  · next e refused => rw [Plan.updated, refused]; rfl

theorem commit_run {β : Type} (r : Runner) (p : Plan) (d : Detection) (remoteAfter : Snapshot)
    (stamp : Int) (f : Except Error Unit → SyncM β) (w : World) :
    StateT.run (commit r p remoteAfter (StoredBase.ofSnapshot (d.nextBase remoteAfter))
        { localId := p.localId, remoteId := p.remoteId, detectedAt := stamp,
          conflicts := d.conflicts } >>= f) w =
      StateT.run (f (Except.mapError Error.link (Links.commitWith w.store p.localId p.remoteId
          (p.commitWrites d { ttl := r.ttl, now := w.clock } remoteAfter stamp) w.wallClock).2))
        { w with store := (Links.commitWith w.store p.localId p.remoteId
          (p.commitWrites d { ttl := r.ttl, now := w.clock } remoteAfter stamp)
          w.wallClock).1 } := rfl

theorem refreshCache_run (r : Runner) (p : Plan) (w : World) :
    (StateT.run (refreshCache r p) w).2.store =
        (w.store.writeBatch
          [Cache.putOp { ttl := r.ttl, now := w.clock } p.remoteId p.remote]).1 ∧
      (StateT.run (refreshCache r p) w).2.tracker.log = w.tracker.log := by
  refine ⟨refreshCache_store r p w, ?_⟩
  rw [refreshCache, cacheClock_bind, store_bind, StateT.run_pure]
  exact ((Effect.emitAll _ _).2.1).trans (List.append_nil _)

/-- The ways carrying out a plan with a detection can end, with the store and the tracker's log
it leaves, from the store `s` and the log `log`; `clock` is the cache's clock and `now` the wall
clock of the run. -/
inductive ApplyOutcome (collection : Collection) (p : Plan) (d : Detection) (clock : CacheClock)
    (now : Int) (s : Store) (log : List Remote.Sent) :
    Except Error Unit → Store → List Remote.Sent → Prop
  /-- The stored open conflicts do not read: nothing is written. -/
  | unread (e : Error) : ApplyOutcome collection p d clock now s log (.error e) s log
  /-- Nothing is to be written or moved: the cache entry is refreshed. -/
  | refreshed :
      ApplyOutcome collection p d clock now s log (.ok ())
        (s.writeBatch [Cache.putOp clock p.remoteId p.remote]).1 log
  /-- The tracker refused the push: nothing else is written. -/
  | pushRefused (f : Remote.Failure) : p.toRemote ≠ [] →
      ApplyOutcome collection p d clock now s log (.error (.remote f)) s
        (log ++ pushes (p.itemPath collection) p.toRemote)
  /-- The tracker did not keep a pushed value: the push is compensated. -/
  | pushIgnored (e : Error) : p.toRemote ≠ [] →
      ApplyOutcome collection p d clock now s log (.error e) (p.compensated false s)
        (log ++ pushes (p.itemPath collection) p.toRemote ++
          reverts p (p.itemPath collection) p.toRemote)
  /-- The local save was refused: the push, if any, is compensated. -/
  | saveRefused (e : Error) : p.writesLocal = true → s.save (p.updated now) = .error e →
      ApplyOutcome collection p d clock now s log (.error e) (p.compensated false s)
        (log ++ pushes (p.itemPath collection) p.toRemote ++
          reverts p (p.itemPath collection) p.toRemote)
  /-- The commit failed: the push and the local save, if any, are compensated. -/
  | commitRefused (e : LinkError) (saved : Store) (remoteAfter : Snapshot) : p.Saves now s saved →
      (Links.commitWith saved p.localId p.remoteId (p.commitWrites d clock remoteAfter now) now).2 =
        .error e →
      ApplyOutcome collection p d clock now s log (.error (.link e))
        (p.compensated p.writesLocal
          (Links.commitWith saved p.localId p.remoteId (p.commitWrites d clock remoteAfter now)
            now).1)
        (log ++ pushes (p.itemPath collection) p.toRemote ++
          reverts p (p.itemPath collection) p.toRemote)
  /-- Committed, after the push and the local save, if any. -/
  | committed (saved : Store) (remoteAfter : Snapshot) : p.Saves now s saved →
      (∀ c ∈ p.toRemote, remoteAfter.get c.field = c.value) →
      (Links.commitWith saved p.localId p.remoteId (p.commitWrites d clock remoteAfter now) now).2 =
        .ok () →
      ApplyOutcome collection p d clock now s log (.ok ())
        (Links.commitWith saved p.localId p.remoteId (p.commitWrites d clock remoteAfter now) now).1
        (log ++ pushes (p.itemPath collection) p.toRemote)

/-- The last step of carrying out a plan, once the commit has answered: a failed commit is
compensated. -/
def afterCommit (r : Runner) (collection : Collection) (p : Plan) :
    Except Error Unit → SyncM (Except Error Unit)
  | .error e => do
    compensate r p (p.itemPath collection) p.toRemote p.writesLocal
    pure (.error e)
  | .ok () => pure (.ok ())

/-- The end of carrying out a plan: the link is committed with the pushed remote state, and the
plan is compensated if that fails. -/
theorem commit_outcome {r : Runner} (logged : r.Logged) (collection : Collection) {p : Plan}
    {d : Detection} {clock : CacheClock} {now : Int} {s saved : Store} {log : List Remote.Sent}
    {remoteAfter : Snapshot} (saves : p.Saves now s saved)
    (kept : ∀ c ∈ p.toRemote, remoteAfter.get c.field = c.value) (w : World)
    (pushed : w.tracker.log = log ++ pushes (p.itemPath collection) p.toRemote)
    {outcome : Store × Except LinkError Unit}
    (committed :
      Links.commitWith saved p.localId p.remoteId (p.commitWrites d clock remoteAfter now)
      now = outcome) :
    ApplyOutcome collection p d clock now s log
      (StateT.run (afterCommit r collection p (outcome.2.mapError .link))
        { w with store := outcome.1 }).1
      (StateT.run (afterCommit r collection p (outcome.2.mapError .link))
        { w with store := outcome.1 }).2.store
      (StateT.run (afterCommit r collection p (outcome.2.mapError .link))
        { w with store := outcome.1 }).2.tracker.log := by
  obtain ⟨s', result⟩ := outcome
  cases result with
  | ok u =>
    show ApplyOutcome collection p d clock now s log (.ok ()) s' w.tracker.log
    rw [pushed]
    have done : ApplyOutcome collection p d clock now s log (.ok ())
        (Links.commitWith saved p.localId p.remoteId (p.commitWrites d clock remoteAfter now) now).1
        (log ++ pushes (p.itemPath collection) p.toRemote) :=
      ApplyOutcome.committed saved remoteAfter saves kept (by rw [committed])
    rw [committed] at done
    exact done
  | error e =>
    have compensated := compensate_effect logged p (p.itemPath collection) p.toRemote p.writesLocal
      { w with store := s' }
    show ApplyOutcome collection p d clock now s log (.error (.link e))
      (StateT.run (compensate r p (p.itemPath collection) p.toRemote p.writesLocal)
        { w with store := s' }).2.store
      (StateT.run (compensate r p (p.itemPath collection) p.toRemote p.writesLocal)
        { w with store := s' }).2.tracker.log
    rw [compensated.1, compensated.2.1]
    dsimp only
    rw [pushed]
    have undone : ApplyOutcome collection p d clock now s log (.error (.link e))
        (p.compensated p.writesLocal (Links.commitWith saved p.localId p.remoteId
          (p.commitWrites d clock remoteAfter now) now).1)
        (log ++ pushes (p.itemPath collection) p.toRemote ++
          reverts p (p.itemPath collection) p.toRemote) :=
      ApplyOutcome.commitRefused e saved remoteAfter saves (by rw [committed])
    rw [committed] at undone
    exact undone

theorem afterCommit_ok {r : Runner} {collection : Collection} {p : Plan}
    (outcome : Store × Except LinkError Unit) {w : World}
    (ok : (StateT.run (afterCommit r collection p (outcome.2.mapError .link))
      { w with store := outcome.1 }).1 = .ok ()) :
    outcome = ((StateT.run (afterCommit r collection p (outcome.2.mapError .link))
      { w with store := outcome.1 }).2.store, .ok ()) := by
  obtain ⟨s', result⟩ := outcome
  cases result with
  | ok u => rfl
  | error e => exact nomatch (ok : (Except.error (Error.link e) : Except Error Unit) = .ok ())

/-- How carrying out a plan with a detection ends, and, when it succeeds, how: only its cache
entry refreshed, which an import never is, or its link committed over the local save. -/
theorem apply_outcome_committed {r : Runner} (logged : r.Logged) (collection : Collection)
    {p : Plan} {d : Detection} (detected : p.detection = some d) (w : World) :
    ApplyOutcome collection p d { ttl := r.ttl, now := w.clock } w.wallClock w.store w.tracker.log
      (StateT.run (apply r collection p) w).1 (StateT.run (apply r collection p) w).2.store
      (StateT.run (apply r collection p) w).2.tracker.log ∧
    ((StateT.run (apply r collection p) w).1 = .ok () → p.pairing.isImport = false ∨
      ∃ saved remoteAfter, p.Saves w.wallClock w.store saved ∧
        Links.commitWith saved p.localId p.remoteId
          (p.commitWrites d { ttl := r.ttl, now := w.clock } remoteAfter w.wallClock) w.wallClock =
          ((StateT.run (apply r collection p) w).2.store, .ok ())) := by
  have toRemote : d.changes.filter (·.direction == .toRemote) = p.toRemote := by
    simp [Plan.toRemote, Plan.changes, detected]
  have toLocal : d.changes.filter (·.direction == .toLocal) = p.toLocal := by
    simp [Plan.toLocal, Plan.changes, detected]
  have path : Remote.trimTrailingSlashes collection.endpoint ++ "/" ++ p.remoteId =
      p.itemPath collection := rfl
  simp only [apply, detected, toRemote, toLocal, path]
  rw [run_bind, run_get, run_bind, run_get]
  dsimp only
  split
  · exact ⟨ApplyOutcome.unread _, fun ok => by cases ok⟩
  split
  · next shortcut =>
    rw [run_bind]
    obtain ⟨stored, logged⟩ := refreshCache_run r p w
    refine ⟨?_, fun _ => .inl (by simp at shortcut; exact shortcut.1.1.2)⟩
    show ApplyOutcome collection p d _ _ _ _ (.ok ()) (StateT.run (refreshCache r p) w).2.store
      (StateT.run (refreshCache r p) w).2.tracker.log
    rw [stored, logged]
    exact ApplyOutcome.refreshed
  rw [run_bind]
  obtain ⟨pushOut, c₁, n₁⟩ := push_outcome logged p (p.itemPath collection) p.toRemote w
  generalize StateT.run (push r p (p.itemPath collection) p.toRemote) w = out
    at pushOut c₁ n₁ ⊢
  obtain ⟨pushed, w₁⟩ := out
  dsimp only at pushOut c₁ n₁ ⊢
  generalize s₁ : w₁.store = store₁ at pushOut
  generalize l₁ : w₁.tracker.log = log₁ at pushOut
  cases pushOut with
  | refused f some =>
    refine ⟨?_, fun ok => by cases ok⟩
    show ApplyOutcome collection p d _ _ _ _ (.error (.remote f)) w₁.store w₁.tracker.log
    rw [s₁, l₁]
    exact ApplyOutcome.pushRefused f some
  | ignored e some =>
    refine ⟨?_, fun ok => by cases ok⟩
    show ApplyOutcome collection p d _ _ _ _ (.error e) w₁.store w₁.tracker.log
    rw [s₁, l₁]
    exact ApplyOutcome.pushIgnored e some
  | pushed after kept =>
    dsimp only
    split
    · next writes =>
      rw [run_bind, saveLocal_run]
      cases savedEq : w₁.store.save (p.updated w₁.wallClock) with
      | ok saved =>
        dsimp only
        rw [commit_run, ← c₁, ← n₁]
        have saves : p.Saves w₁.wallClock w.store saved := by
          have writes' : p.writesLocal = true := writes
          rw [Plan.Saves, if_pos writes', ← s₁, savedEq]
        exact ⟨commit_outcome logged collection saves kept { w₁ with store := saved } l₁ rfl,
          fun ok => .inr ⟨saved, after, saves, afterCommit_ok _ ok⟩⟩
      | error e =>
        dsimp only
        rw [run_bind]
        obtain ⟨s₂, l₂, -, -⟩ :=
          compensate_effect logged p (p.itemPath collection) p.toRemote false w₁
        refine ⟨?_, fun ok => by cases ok⟩
        show ApplyOutcome collection p d _ _ _ _ (.error e)
          (StateT.run (compensate r p (p.itemPath collection) p.toRemote false) w₁).2.store
          (StateT.run (compensate r p (p.itemPath collection) p.toRemote false) w₁).2.tracker.log
        rw [s₂, l₂, s₁, l₁]
        exact ApplyOutcome.saveRefused e writes (by rw [← s₁, ← n₁, savedEq])
    · next keeps =>
      rw [commit_run, ← c₁, ← n₁]
      have saves : p.Saves w₁.wallClock w.store w₁.store := by
        have keeps' : p.writesLocal = false := Bool.eq_false_iff.mpr keeps
        rw [Plan.Saves, if_neg (by simp [keeps']), s₁]
      exact ⟨commit_outcome logged collection saves kept w₁ l₁ rfl,
        fun ok => .inr ⟨w₁.store, after, saves, afterCommit_ok _ ok⟩⟩

theorem apply_outcome {r : Runner} (logged : r.Logged) (collection : Collection) {p : Plan}
    {d : Detection} (detected : p.detection = some d) (w : World) :
    ApplyOutcome collection p d { ttl := r.ttl, now := w.clock } w.wallClock w.store w.tracker.log
      (StateT.run (apply r collection p) w).1 (StateT.run (apply r collection p) w).2.store
      (StateT.run (apply r collection p) w).2.tracker.log :=
  (apply_outcome_committed logged collection detected w).1

end SyncM

end TrackerSync
