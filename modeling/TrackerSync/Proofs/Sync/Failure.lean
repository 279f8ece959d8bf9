import TrackerSync.Proofs.Sync.Process
import TrackerSync.Proofs.Sync.Accounting
import TrackerSync.Proofs.Sync.StoredRecords
import TrackerSync.Proofs.Store.Rows
import TrackerSync.Proofs.Sync.LinkTable

/-!
What a failed entity leaves: every key but its cache entry as it was, and its own row as it was,
put back, or, where putting it back is refused, as the sync saved it.
-/

namespace TrackerSync

theorem Entity.applyChange_id (e : Entity) (f : Field) (v : FieldValue) :
    (e.applyChange f v).id = e.id := by
  cases f <;> rfl

namespace Cache

theorem invalidate_store (id : String) (s : Store) :
    ((invalidate (some id)).run s).2.1 =
      if s.faults.failDeletes then s else (s.remove nsCache id).2 := by
  -- a refused delete changes nothing; the store's fault decides which
  obtain ⟨durable, kv, entities, audit, actor, ⟨batches, deletes, loads, saves, planted⟩, strays⟩ := s
  cases deletes <;> rfl

end Cache

namespace Plan

theorem updated_id (q : Plan) (now : Int) : (q.updated now).id = q.pairing.entity.id := by
  have kept : ∀ (changes : List FieldChange) (e : Entity),
      (changes.foldl (fun e c => e.applyChange c.field c.value) e).id = e.id := by
    intro changes
    induction changes with
    | nil => intro e; rfl
    | cons c rest ih =>
      intro e
      rw [List.foldl_cons, ih, Entity.applyChange_id]
  exact kept q.toLocal q.pairing.entity

/-- What a failed entity of plan `q` may leave of the store `s` it met: every key but its cache
entry as it was, and its own row as it was, put back, or as the sync saved it where that is refused.
-/
structure NoPartialCommit (q : Plan) (s s' : Store) : Prop where
  keys : ∀ ns key, (ns, key) ≠ (nsCache, q.remoteId) → s'.get ns key = s.get ns key
  cache : s'.get nsCache q.remoteId = s.get nsCache q.remoteId ∨ s'.get nsCache q.remoteId = none
  rows : ∀ id, id ≠ q.localId → s'.rowAt id = s.rowAt id
  own : s'.rowAt q.localId = s.rowAt q.localId ∨
    (∃ e, q.pairing = .linked e ∧ s'.rowAt q.localId = (some e, none)) ∨
    (q.pairing.isImport = true ∧ s'.rowAt q.localId = (none, none)) ∨
    (∃ now, (s'.faults.failSaves = some 0 ∨ s'.faults.failRemoves = true) ∧
      s'.rowAt q.localId = (some (q.updated now), none))

section Invalidated

variable (q : Plan) (s : Store)

theorem invalidated_get {ns key : String} (other : (ns, key) ≠ (nsCache, q.remoteId)) :
    ((Cache.invalidate (some q.remoteId)).run s).2.1.get ns key = s.get ns key := by
  rw [Cache.invalidate_store]
  split
  · rfl
  · rw [Store.get_remove, if_neg]
    rintro ⟨rfl, rfl⟩
    exact other rfl

theorem invalidated_cache :
    ((Cache.invalidate (some q.remoteId)).run s).2.1.get nsCache q.remoteId =
        s.get nsCache q.remoteId ∨
      ((Cache.invalidate (some q.remoteId)).run s).2.1.get nsCache q.remoteId = none := by
  rw [Cache.invalidate_store]
  split
  · exact .inl rfl
  · exact .inr (by simp)

@[simp] theorem invalidated_rowAt (id : String) :
    ((Cache.invalidate (some q.remoteId)).run s).2.1.rowAt id = s.rowAt id := by
  rw [Cache.invalidate_store]
  split <;> rfl

@[simp] theorem invalidated_faults :
    ((Cache.invalidate (some q.remoteId)).run s).2.1.faults = s.faults := by
  rw [Cache.invalidate_store]
  split <;> rfl

end Invalidated

theorem noPartialCommit_compensated_false (q : Plan) (s : Store) :
    q.NoPartialCommit s (q.compensated false s) where
  keys _ _ other := invalidated_get q s other
  cache := invalidated_cache q s
  rows id _ := invalidated_rowAt q s id
  own := .inl (invalidated_rowAt q s q.localId)

theorem restore_imported {q : Plan} {created : Entity} (imported : q.pairing = .imported created)
    (s : Store) : q.restore s = if s.faults.failRemoves then s else (s.removeEntity created.id).2 := by
  simp only [restore, undoLocal, Store.removeItem, imported]
  by_cases failing : s.faults.failRemoves = true
  · rw [if_pos failing, if_pos failing]
    rfl
  · rw [if_neg failing, if_neg failing]
    rfl

@[simp] theorem restore_get (q : Plan) (s : Store) : (q.restore s).get = s.get := by
  cases pairing : q.pairing with
  | linked before =>
    simp only [restore, undoLocal, pairing]
    split
    · next s' saved => exact Store.save_get saved
    · rfl
  | imported created =>
    rw [restore_imported pairing]
    split
    · rfl
    · exact Store.removeEntity_get s _

theorem restore_rowAt_of_ne (q : Plan) (s : Store) {id : String} (other : id ≠ q.pairing.entity.id) :
    (q.restore s).rowAt id = s.rowAt id := by
  cases pairing : q.pairing with
  | linked before =>
    rw [pairing] at other
    simp only [restore, undoLocal, pairing]
    split
    · next s' saved =>
      rw [Store.save_rowAt saved, if_neg]
      exact fun same => other same.symm
    · rfl
  | imported created =>
    rw [pairing] at other
    rw [restore_imported pairing]
    split
    · rfl
    · rw [Store.removeEntity_rowAt, if_neg]
      exact fun ⟨same, _⟩ => other same.symm

theorem restore_faults (q : Plan) (s : Store) :
    ∃ n, (q.restore s).faults = { s.faults with failSaves := n } := by
  cases pairing : q.pairing with
  | linked before =>
    simp only [restore, undoLocal, pairing]
    split
    · next s' saved => exact Store.save_faults saved
    · exact ⟨s.faults.failSaves, rfl⟩
  | imported created =>
    rw [restore_imported pairing]
    refine ⟨s.faults.failSaves, ?_⟩
    split
    · rfl
    · unfold Store.removeEntity
      split
      · rfl
      · exact Store.record_faults _ _

theorem compensated_faults (q : Plan) (localWritten : Bool) (s : Store) :
    ∃ n, (q.compensated localWritten s).faults = { s.faults with failSaves := n } := by
  unfold compensated
  split
  · obtain ⟨n, faults⟩ := restore_faults q ((Cache.invalidate (some q.remoteId)).run s).2.1
    rw [faults, invalidated_faults]
    exact ⟨n, rfl⟩
  · rw [invalidated_faults]
    exact ⟨s.faults.failSaves, rfl⟩

theorem compensated_failRemoves (q : Plan) (localWritten : Bool) (s : Store) :
    (q.compensated localWritten s).faults.failRemoves = s.faults.failRemoves := by
  obtain ⟨n, faults⟩ := compensated_faults q localWritten s
  rw [faults]

/-- Putting back the local item over the store `saved`, where the sync saved it: the row holds
the item as loaded, is gone for an import, or, where the save or the removal is refused, still
holds what the sync saved. -/
theorem restore_own (q : Plan) {now : Int} {saved : Store}
    (held : saved.rowAt q.pairing.entity.id = (some (q.updated now), none)) :
    (∃ e, q.pairing = .linked e ∧ (q.restore saved).rowAt q.pairing.entity.id = (some e, none)) ∨
      (q.pairing.isImport = true ∧ (q.restore saved).rowAt q.pairing.entity.id = (none, none)) ∨
      (((q.restore saved).faults.failSaves = some 0 ∨ (q.restore saved).faults.failRemoves = true) ∧
        (q.restore saved).rowAt q.pairing.entity.id = (some (q.updated now), none)) := by
  cases pairing : q.pairing with
  | linked before =>
    rw [pairing] at held
    simp only [restore, undoLocal, pairing]
    split
    · next s' putBack =>
      refine .inl ⟨before, rfl, ?_⟩
      rw [Store.save_rowAt putBack]
      exact if_pos rfl
    · next e refused =>
      exact .inr (.inr ⟨.inl (Store.save_refused refused), held⟩)
  | imported created =>
    rw [pairing] at held
    dsimp only [Pairing.entity] at held ⊢
    rw [restore_imported pairing]
    split
    · next failing => exact .inr (.inr ⟨.inr failing, held⟩)
    · refine .inr (.inl ⟨rfl, ?_⟩)
      have listed : (saved.kindTextOf? created.id).isSome := by
        rw [Store.kindTextOf?_of_entity (congrArg Prod.fst held)]
        rfl
      rw [Store.removeEntity_rowAt, if_pos ⟨rfl, listed⟩]

theorem noPartialCommit_compensated_saved (q : Plan) (localId : q.localId = q.pairing.entity.id)
    {now : Int} {s saved : Store} (saves : q.Saves now s saved) :
    q.NoPartialCommit s (q.compensated q.writesLocal saved) := by
  unfold Saves at saves
  split at saves
  · next writes =>
    have keys := Store.save_get saves
    have rows := Store.save_rowAt saves
    rw [updated_id] at rows
    -- the store before the restore: the sync's save, less the cache entry
    have dropped (id : String) : ((Cache.invalidate (some q.remoteId)).run saved).2.1.rowAt id =
        saved.rowAt id := invalidated_rowAt q saved id
    simp only [compensated, writes, if_true]
    constructor
    · intro ns key other
      rw [restore_get, invalidated_get q saved other, keys]
    · rw [restore_get, ← keys]
      exact invalidated_cache q saved
    · intro id other
      rw [restore_rowAt_of_ne q _ (localId ▸ other), dropped, rows, if_neg]
      exact fun same => other (localId.trans same).symm
    · have held : ((Cache.invalidate (some q.remoteId)).run saved).2.1.rowAt q.pairing.entity.id =
          (some (q.updated now), none) := by
        rw [dropped, rows, if_pos rfl]
      rw [localId]
      rcases restore_own q held with linked | imported | refused
      · exact .inr (.inl linked)
      · exact .inr (.inr (.inl imported))
      · exact .inr (.inr (.inr ⟨now, refused⟩))
  · next keeps =>
    have keeps' : q.writesLocal = false := by simpa using keeps
    rw [keeps', saves]
    exact noPartialCommit_compensated_false q s

theorem Saves.faults {q : Plan} {now : Int} {s saved : Store} (saves : q.Saves now s saved) :
    ∃ n, saved.faults = { s.faults with failSaves := n } := by
  unfold Saves at saves
  split at saves
  · exact Store.save_faults saves
  · rw [saves]
    exact ⟨s.faults.failSaves, rfl⟩

theorem Saves.calm {q : Plan} {now : Int} {s saved : Store} (saves : q.Saves now s saved)
    (calm : s.faults.interference = none) : saved.faults.interference = none := by
  obtain ⟨n, faults⟩ := saves.faults
  rw [faults]
  exact calm

end Plan

namespace SyncM

/-- A plan whose application failed either wrote nothing, at most sending a push the tracker
refused, or was compensated, with the push set back. -/
theorem ApplyOutcome.failed {collection : Collection} {q : Plan} {d : Detection}
    {clock : CacheClock} {now : Int} {s s' : Store} {log log' : List Remote.Sent} {e : Error}
    (localId : q.localId = q.pairing.entity.id) (calm : s.faults.interference = none)
    (outcome : ApplyOutcome collection q d clock now s log (.error e) s' log') :
    (s' = s ∧ (log' = log ∨ log' = log ++ pushes (q.itemPath collection) q.toRemote)) ∨
      (q.NoPartialCommit s s' ∧
        log' = log ++ pushes (q.itemPath collection) q.toRemote ++
          reverts q (q.itemPath collection) q.toRemote) := by
  cases outcome with
  | unread _ => exact .inl ⟨rfl, .inl rfl⟩
  | pushRefused _ _ => exact .inl ⟨rfl, .inr rfl⟩
  | pushIgnored _ _ => exact .inr ⟨Plan.noPartialCommit_compensated_false q s, rfl⟩
  | saveRefused _ _ _ => exact .inr ⟨Plan.noPartialCommit_compensated_false q s, rfl⟩
  | commitRefused _ saved remoteAfter saves refused =>
    rw [Links.commitWith_failed (saves.calm calm) refused]
    exact .inr ⟨Plan.noPartialCommit_compensated_saved q localId saves, rfl⟩

end SyncM

/-- A failed entity leaves no partial commit: nothing was written, or the failure was compensated
and one more `PATCH` sets every pushed field back. -/
theorem failed_entity_leaves_no_partial_commit {r : Runner} (logged : r.Logged)
    (collection : Collection) (abort : Bool) {p : Plan}
    (wellFormed : p.WellFormed r.options.seedPolicy) (w : World)
    (calm : w.store.faults.interference = none)
    (failed : (StateT.run (SyncM.process r collection abort p) w).1.1.outcome = .failed) :
    ∃ q : Plan, q.remoteId = p.remoteId ∧ q.remote = p.remote ∧
      ((StateT.run (SyncM.process r collection abort p) w).2.store = w.store ∧
          ((StateT.run (SyncM.process r collection abort p) w).2.tracker.log = w.tracker.log ∨
            (StateT.run (SyncM.process r collection abort p) w).2.tracker.log =
              w.tracker.log ++ SyncM.pushes (q.itemPath collection) q.toRemote) ∨
        q.pairing.LoadsFrom w.store ∧
          q.NoPartialCommit w.store (StateT.run (SyncM.process r collection abort p) w).2.store ∧
          (StateT.run (SyncM.process r collection abort p) w).2.tracker.log =
            w.tracker.log ++ SyncM.pushes (q.itemPath collection) q.toRemote ++
              SyncM.reverts q (q.itemPath collection) q.toRemote) := by
  have outcome := SyncM.process_outcome logged collection abort (p := p) w
  generalize (StateT.run (SyncM.process r collection abort p) w).1.1 = rep at outcome failed
  generalize (StateT.run (SyncM.process r collection abort p) w).2.store = s' at outcome ⊢
  generalize (StateT.run (SyncM.process r collection abort p) w).2.tracker.log = log' at outcome ⊢
  cases outcome with
  | cancelled => cases failed
  | dropped rep _ => exact ⟨p, rfl, rfl, .inl ⟨rfl, .inl rfl⟩⟩
  | carried q clock now result s' log' rechecked applied =>
    obtain ⟨remoteId, remote, wellFormed', loads⟩ := rechecked.carried wellFormed
    obtain ⟨e, rfl⟩ := (q.reportOf_failed result).mp failed
    refine ⟨q, remoteId, remote, ?_⟩
    cases applied with
    | detected d _ outcome =>
      rcases SyncM.ApplyOutcome.failed wellFormed'.localId calm outcome with nothing | undone
      · exact .inl nothing
      · exact .inr ⟨loads, undone⟩

def unsetStatusItem : Entity := { id := "L1", kind := .issue, title := "A", status := "", updatedAt := 1 }

def todoItem : Snapshot := { id := "7", title := some "A", status := some "todo" }

/-- The first sync of `L1` and item `7`, which fills the empty local status from the tracker. -/
def fillStatusPlan : Plan :=
  { remoteId := "7", localId := "L1", pairing := .linked unsetStatusItem, remote := todoItem
    base := none
    detection := some (detect .fillEmptyLocal none unsetStatusItem.normalize.1 todoItem) }

def refusedSaveWorld : World :=
  { store := { (Links.link (({} : Store).saveEntity unsetStatusItem) "L1" "7" 0).1 with
      faults := { failSaves := some 0 } }
    clock := 0, wallClock := 0 }

theorem failed_entity_leaves_no_partial_commit_on_refused_save :
    scriptedRunner.Logged ∧ fillStatusPlan.WellFormed scriptedRunner.options.seedPolicy ∧
      refusedSaveWorld.store.faults.interference = none ∧
      (StateT.run (SyncM.process scriptedRunner (.ofKind .issue) false fillStatusPlan)
        refusedSaveWorld).1.1.outcome = .failed ∧
      ∃ q : Plan, q.remoteId = fillStatusPlan.remoteId ∧ q.remote = fillStatusPlan.remote ∧
        ((StateT.run (SyncM.process scriptedRunner (.ofKind .issue) false fillStatusPlan)
              refusedSaveWorld).2.store = refusedSaveWorld.store ∧
            ((StateT.run (SyncM.process scriptedRunner (.ofKind .issue) false fillStatusPlan)
                refusedSaveWorld).2.tracker.log = refusedSaveWorld.tracker.log ∨
              (StateT.run (SyncM.process scriptedRunner (.ofKind .issue) false fillStatusPlan)
                refusedSaveWorld).2.tracker.log =
                refusedSaveWorld.tracker.log ++
                  SyncM.pushes (q.itemPath (.ofKind .issue)) q.toRemote) ∨
          q.pairing.LoadsFrom refusedSaveWorld.store ∧
            q.NoPartialCommit refusedSaveWorld.store
              (StateT.run (SyncM.process scriptedRunner (.ofKind .issue) false fillStatusPlan)
                refusedSaveWorld).2.store ∧
            (StateT.run (SyncM.process scriptedRunner (.ofKind .issue) false fillStatusPlan)
                refusedSaveWorld).2.tracker.log =
              refusedSaveWorld.tracker.log ++
                SyncM.pushes (q.itemPath (.ofKind .issue)) q.toRemote ++
                  SyncM.reverts q (q.itemPath (.ofKind .issue)) q.toRemote) := by
  have logged := Runner.logged_of_scripted (r := scriptedRunner) rfl
  have wellFormed : fillStatusPlan.WellFormed scriptedRunner.options.seedPolicy :=
    ⟨rfl, rfl, .inr rfl⟩
  have failed : (StateT.run (SyncM.process scriptedRunner (.ofKind .issue) false fillStatusPlan)
      refusedSaveWorld).1.1.outcome = .failed := by
    decide +kernel
  exact ⟨logged, wellFormed, rfl, failed,
    failed_entity_leaves_no_partial_commit logged _ false wellFormed refusedSaveWorld rfl failed⟩

def titledItem : Json := .obj [("id", .str "7"), ("title", .str "A")]

end TrackerSync
