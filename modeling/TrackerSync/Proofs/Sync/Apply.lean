import TrackerSync.Sync.Apply
import TrackerSync.Proofs.Store.Batch
import TrackerSync.Proofs.Detection.Convergence

/-!
Carrying out a plan, as far as the store is concerned.
-/

namespace TrackerSync

deriving instance ReflBEq, LawfulBEq for ConflictRecord

theorem SyncState.conflictsOp_of_empty {c : ConflictSet} (empty : c.conflicts = []) :
    SyncState.conflictsOp c = .delete nsConflicts c.remoteId := by
  simp [SyncState.conflictsOp, empty]

theorem StoreAct.writeBatch_unfold (ws : List Write) (s : Store) :
    (StoreAct.writeBatch ws).run s = (ExceptT.run (do
      StoreAct.setStore (s.writeBatch ws).1
      match (s.writeBatch ws).2 with
      | some e => throw e
      | none => pure ())).run (s, []) := rfl

/-- A batch run as a store action: the store the batch leaves, and its failure thrown. -/
theorem StoreAct.writeBatch_run_eq (ws : List Write) (s : Store) :
    (StoreAct.writeBatch ws).run s =
      ((s.writeBatch ws).2.elim (.ok ()) .error, (s.writeBatch ws).1, []) := by
  rw [StoreAct.writeBatch_unfold]
  cases (s.writeBatch ws).2 <;> rfl

theorem StoreAct.writeBatch_run (ws : List Write) (s : Store) :
    ((StoreAct.writeBatch ws).run s).2.1 = (s.writeBatch ws).1 := by
  rw [StoreAct.writeBatch_run_eq]

theorem StoreAct.delete_unfold (ns key : String) (s : Store) (es : List Event) :
    (ExceptT.run (StoreAct.delete ns key)).run (s, es) =
      (ExceptT.run (match s.delete ns key with
        | .ok (existed, s') => (StoreAct.setStore s' >>= fun _ => pure existed : StoreAct Bool)
        | .error e => throw e)).run (s, es) := rfl

theorem StoreAct.delete_run_of_ok {ns key : String} {s s' : Store} {existed : Bool}
    (es : List Event) (deleted : s.delete ns key = .ok (existed, s')) :
    (ExceptT.run (StoreAct.delete ns key)).run (s, es) = (.ok existed, s', es) := by
  rw [StoreAct.delete_unfold, deleted]
  rfl

theorem World.emit_store (w : World) (e : Event) : (w.emit e).store = w.store := by
  unfold World.emit
  dsimp only
  split <;> rfl

namespace SyncM

theorem emitAll_store (es : List Event) (w : World) : ((emitAll es).run w).2.store = w.store := by
  induction es generalizing w with
  | nil => rfl
  | cons e rest ih =>
    show ((emitAll rest).run (w.emit e)).2.store = w.store
    rw [ih, World.emit_store]

theorem cacheClock_bind {β : Type} (r : Runner) (f : CacheClock → SyncM β) (w : World) :
    (cacheClock r >>= f).run w = (f { ttl := r.ttl, now := w.clock }).run w := rfl

/-- A store action run in a sync action: the world takes the store it left, then its events. -/
theorem store_bind {α β : Type} (act : StoreAct α) (f : Except Error α → SyncM β) (w : World) :
    (store act >>= f).run w =
      (f (act.run w.store).1).run
        ((emitAll (act.run w.store).2.2).run { w with store := (act.run w.store).2.1 }).2 := rfl

theorem refreshCache_store (r : Runner) (p : Plan) (w : World) :
    ((refreshCache r p).run w).2.store =
      (w.store.writeBatch [Cache.putOp { ttl := r.ttl, now := w.clock } p.remoteId p.remote]).1 := by
  rw [refreshCache, cacheClock_bind, store_bind, StateT.run_pure]
  show ((emitAll _).run _).2.store = _
  rw [emitAll_store, Cache.put, StoreAct.writeBatch_run]

theorem push_nil (r : Runner) (p : Plan) (itemPath : String) :
    push r p itemPath [] = pure (.ok p.remote) := rfl

/-- A commit runs one batch: the link, the cache entry, the next base and the open conflicts. -/
theorem commit_bind {β : Type} (r : Runner) (p : Plan) (remoteAfter : Snapshot)
    (nextBase : StoredBase) (conflicts : ConflictSet) (f : Except Error Unit → SyncM β)
    (w : World) :
    (commit r p remoteAfter nextBase conflicts >>= f).run w =
      let outcome := Links.commitWith w.store p.localId p.remoteId
          [Cache.putOp { ttl := r.ttl, now := w.clock } p.remoteId remoteAfter,
            SyncState.baseOp p.remoteId nextBase, SyncState.conflictsOp conflicts]
          w.wallClock
      (f (outcome.2.mapError .link)).run { w with store := outcome.1 } := rfl

theorem apply_of_skipped (r : Runner) (collection : Collection) (p : Plan) (w : World)
    (skipped : p.detection = none) :
    (apply r collection p).run w =
      (do refreshCache r p; return (Except.ok () : Except Error Unit)).run w := by
  simp only [apply, skipped]

/-- A plan whose detection writes nothing, imports nothing and moves neither the base nor the
stored open conflicts only refreshes the cache. -/
theorem apply_of_settled (r : Runner) (collection : Collection) (p : Plan) (d : Detection)
    (w : World) (stored : Option ConflictSet) (detected : p.detection = some d)
    (nothingToWrite : d.changes = []) (linked : p.pairing.isImport = false)
    (baseStays : p.base.map (·.fingerprint) =
      some (StoredBase.ofSnapshot (d.nextBase p.remote)).fingerprint)
    (read : SyncState.loadConflicts w.store p.remoteId = .ok stored)
    (conflictsStay : (stored.map (·.conflicts)).getD [] = d.conflicts) :
    (apply r collection p).run w =
      (do refreshCache r p; return (Except.ok () : Except Error Unit)).run w := by
  -- stepping through the binds one at a time keeps the proof term small
  simp only [apply, detected]
  rw [StateT.run_bind, StateT.run_get, pure_bind, StateT.run_bind, StateT.run_get, pure_bind]
  dsimp only
  rw [read]
  dsimp only
  rw [if_pos]
  simp [nothingToWrite, linked, baseStays, conflictsStay]

/-- A plan whose detection writes nothing and reports no conflict, against a stored set of open
conflicts that is not empty, commits: if it succeeds, the set is gone. -/
theorem apply_clears_stale_conflicts (r : Runner) (collection : Collection) (p : Plan)
    (d : Detection) (w : World) (c : ConflictSet) (detected : p.detection = some d)
    (nothingToWrite : d.changes = []) (linked : p.pairing.isImport = false)
    (noConflicts : d.conflicts = [])
    (read : SyncState.loadConflicts w.store p.remoteId = .ok (some c)) (stale : c.conflicts ≠ [])
    (succeeded : ((apply r collection p).run w).1 = .ok ()) :
    ((apply r collection p).run w).2.store.get nsConflicts p.remoteId = none := by
  simp only [apply, detected, nothingToWrite, List.filter_nil, linked] at succeeded ⊢
  rw [StateT.run_bind, StateT.run_get, pure_bind, StateT.run_bind, StateT.run_get, pure_bind]
    at succeeded ⊢
  dsimp only at succeeded ⊢
  rw [read] at succeeded ⊢
  dsimp only at succeeded ⊢
  -- the stored set is not the empty one reported, so nothing is pushed or saved and the plan commits
  rw [if_neg (by simp [noConflicts, stale])] at succeeded ⊢
  rw [push_nil, pure_bind] at succeeded ⊢
  dsimp only at succeeded ⊢
  rw [if_neg (by simp), commit_bind] at succeeded ⊢
  dsimp only at succeeded ⊢
  generalize committed : Links.commitWith _ _ _ _ _ = outcome at succeeded ⊢
  obtain ⟨s', result⟩ := outcome
  cases result with
  | error e => cases succeeded
  | ok u =>
    obtain ⟨ops, s₀, _, after⟩ :=
      Links.commitWith_ok_get committed (by simp [Cache.putOp, Write.isRequire])
    have last : ∀ (xs : List Write) (a b c : Write), xs ++ [a, b, c] = (xs ++ [a, b]) ++ [c] := by
      simp
    -- the emptied set is written last, as a delete of its key
    show s'.get nsConflicts p.remoteId = none
    rw [after, SyncState.conflictsOp_of_empty noConflicts, last]
    exact Write.onKeyAll_append_delete _ _ _ _

end SyncM

end TrackerSync
