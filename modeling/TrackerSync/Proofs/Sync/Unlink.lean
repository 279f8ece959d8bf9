import TrackerSync.Proofs.Sync.Failure

/-!
Unlinking during a sync: a pair that had a base stays unlinked, a pair synced for the first time
is linked again.
-/

namespace TrackerSync

namespace Links

theorem unlinkPlan_writes {s : Store} {l : String} {record : LinkRecord} {writes : List Write}
    (planned : unlinkPlan s l = .ok (record, writes)) :
    ∃ raw, writes = unlinkWrites l raw record.remoteId := by
  cases hL : read s nsLinkLocal l with
  | error e => simp [unlinkPlan, hL, bind, Except.bind] at planned
  | ok entry =>
    rcases entry with _ | ⟨found, raw⟩
    · simp [unlinkPlan, hL, bind, Except.bind, throw, throwThe, MonadExceptOf.throw] at planned
    · simp only [unlinkPlan, hL, bind, Except.bind, pure, Except.pure, Except.ok.injEq,
        Prod.mk.injEq] at planned
      obtain ⟨rfl, rfl⟩ := planned
      exact ⟨raw, rfl⟩

theorem read_none {s : Store} {ns key : String} (absent : s.get ns key = none) :
    read s ns key = .ok none := by
  simp [read, absent]

theorem unlink_clears {s : Store} {l : String} {record : LinkRecord}
    (done : (unlink s l).2 = .ok record) :
    remoteFor (unlink s l).1 l = .ok none ∧ localFor (unlink s l).1 record.remoteId = .ok none ∧
      (unlink s l).1.get nsBase record.remoteId = none := by
  unfold unlink at done ⊢
  cases planned : unlinkPlan s l with
  | error e => rw [planned] at done; cases done
  | ok plannedPair =>
    obtain ⟨rec, writes⟩ := plannedPair
    rw [planned] at done
    dsimp only at done ⊢
    cases written : s.writeBatch writes with
    | mk s' failure =>
      rw [written] at done
      cases failure with
      | some e =>
        -- a failed batch ends in an error, whatever the read after it finds
        split at done
        · next same => cases same
        · split at done <;> cases done
        · cases done
      | none =>
        cases done
        obtain ⟨raw, rfl⟩ := unlinkPlan_writes planned
        obtain ⟨s₀, after⟩ := Store.writeBatch_get written
        refine ⟨?_, ?_, ?_⟩
        · rw [remoteFor, read_none (by rw [after, unlinkWrites_local, if_pos rfl])]
          rfl
        · rw [localFor, read_none (by rw [after, unlinkWrites_remote, if_pos rfl])]
          rfl
        · rw [after, unlinkWrites_pairState _ _ _ _ _ (.inl rfl), if_pos rfl]

end Links

namespace SyncM

theorem pair_unlinked (r : Runner) (kind : Kind) (remote : Snapshot) (w : World)
    (unlinked : Links.localFor w.store remote.id = .ok none) :
    (StateT.run (pair r kind remote true) w).1 = .ok none := by
  unfold pair
  rw [run_bind, run_get]
  dsimp only
  rw [unlinked]
  simp only [Bool.not_true, Bool.and_false, Bool.false_eq_true, if_false]
  rfl

theorem plan_unlinked (r : Runner) (kind : Kind) (remote : Snapshot) (w : World)
    (unlinked : Links.localFor w.store remote.id = .ok none) :
    (StateT.run (plan r kind remote true) w).1 = .ok none := by
  unfold plan
  rw [run_bind, pair_unlinked r kind remote w unlinked]
  rfl

/-- Checking again a linked plan made with a base, once the base and the link are gone: the
base is seen to have moved, and planning the item anew as a targeted item finds no link. -/
theorem refresh_unlinked (r : Runner) (kind : Kind) {p : Plan} {e : Entity}
    (linked : p.pairing = .linked e) (based : p.base ≠ none) (remoteId : p.remoteId = p.remote.id)
    (w : World) (unlinked : Links.localFor w.store p.remoteId = .ok none)
    (noBase : w.store.get nsBase p.remoteId = none) :
    (StateT.run (refresh r kind p) w).1 = .ok none := by
  have baseGone : (SyncState.loadBase w.store p.remoteId).toOption.join = none := by
    simp [SyncState.loadBase, noBase, Except.toOption]
  have moved : ((SyncState.loadBase w.store p.remoteId).toOption.join.map (·.fingerprint) ==
      p.base.map (·.fingerprint)) = false := by
    rw [baseGone]
    cases stored : p.base with
    | none => exact absurd stored based
    | some b => rfl
  unfold refresh
  rw [run_bind, run_get, run_bind, localFor_run]
  dsimp only
  rw [linked]
  dsimp only
  rw [moved, Bool.false_and, if_neg Bool.false_ne_true]
  exact plan_unlinked r kind p.remote w (remoteId ▸ unlinked)

/-- Processing a linked plan made with a base, once the base and the link are gone, writes
nothing and sends nothing: the entity fails as having lost its link, or is cancelled. -/
theorem process_unlinked {r : Runner} (collection : Collection) (abort : Bool) {p : Plan}
    {e : Entity} (linked : p.pairing = .linked e) (based : p.base ≠ none)
    (remoteId : p.remoteId = p.remote.id) (w : World)
    (unlinked : Links.localFor w.store p.remoteId = .ok none)
    (noBase : w.store.get nsBase p.remoteId = none) :
    (StateT.run (process r collection abort p) w).2.store = w.store ∧
      (StateT.run (process r collection abort p) w).2.tracker = w.tracker ∧
      ((StateT.run (process r collection abort p) w).1.1 =
          EntityReport.failed p.remoteId none "link removed during sync" ∨
        (StateT.run (process r collection abort p) w).1.1 =
          EntityReport.cancelled p.remoteId (some p.localId)) := by
  unfold process
  rw [run_bind, run_get]
  dsimp only
  split
  · exact ⟨rfl, rfl, .inr rfl⟩
  rw [run_bind]
  have dropped := refresh_unlinked r collection.kind linked based remoteId w unlinked noBase
  obtain ⟨s₁, t₁⟩ := Stays.refresh (S := Eq) (T := Eq) r collection.kind p w
  generalize StateT.run (refresh r collection.kind p) w = out at dropped s₁ t₁ ⊢
  obtain ⟨res, w₁⟩ := out
  dsimp only at dropped s₁ t₁ ⊢
  subst dropped
  exact ⟨s₁.symm, t₁.symm, .inl rfl⟩

end SyncM

/-- A completed unlink is not undone when the pair's plan was made with a base: the processing
writes and sends nothing, and the entity fails or is cancelled. -/
theorem completed_unlink_is_not_undone {r : Runner} (collection : Collection) (abort : Bool)
    {p : Plan} {e : Entity} (wellFormed : p.WellFormed r.options.seedPolicy)
    (linked : p.pairing = .linked e) (based : p.base ≠ none) (w : World)
    (unlinkedLocal : Links.remoteFor w.store p.localId = .ok none)
    (unlinkedRemote : Links.localFor w.store p.remoteId = .ok none)
    (noBase : w.store.get nsBase p.remoteId = none) :
    Links.remoteFor (StateT.run (SyncM.process r collection abort p) w).2.store p.localId =
        .ok none ∧
      Links.localFor (StateT.run (SyncM.process r collection abort p) w).2.store p.remoteId =
        .ok none ∧
      (StateT.run (SyncM.process r collection abort p) w).2.store.get nsBase p.remoteId = none ∧
      (StateT.run (SyncM.process r collection abort p) w).2.tracker = w.tracker ∧
      ((StateT.run (SyncM.process r collection abort p) w).1.1 =
          EntityReport.failed p.remoteId none "link removed during sync" ∨
        (StateT.run (SyncM.process r collection abort p) w).1.1 =
          EntityReport.cancelled p.remoteId (some p.localId)) := by
  obtain ⟨stored, tracked, reported⟩ := SyncM.process_unlinked (r := r) collection abort linked
    based wellFormed.remoteId w unlinkedRemote noBase
  rw [stored]
  exact ⟨unlinkedLocal, unlinkedRemote, noBase, tracked, reported⟩

def todoIssue : Entity := { id := "L1", kind := .issue, title := "A", status := "todo", updatedAt := 1 }

/-- `L1` linked to remote item `7` with a base stored, in a store where `L1` is then unlinked. -/
def linkedWithBase : Store :=
  ((Links.link (({} : Store).saveEntity todoIssue) "L1" "7" 0).1.put nsBase "7" "{}")

def basedPlan : Plan :=
  { remoteId := "7", localId := "L1", pairing := .linked todoIssue
    remote := { id := "7", title := some "A", status := some "todo" }
    base := some { snapshot := { id := "7", title := some "A", status := some "todo" }
                   fingerprint := "" }
    detection := none }

theorem completed_unlink_is_not_undone_after_unlinking :
    basedPlan.WellFormed scriptedRunner.options.seedPolicy ∧
      basedPlan.pairing = .linked todoIssue ∧ basedPlan.base ≠ none ∧
      Links.remoteFor (Links.unlink linkedWithBase "L1").1 basedPlan.localId = .ok none ∧
      Links.localFor (Links.unlink linkedWithBase "L1").1 basedPlan.remoteId = .ok none ∧
      (Links.unlink linkedWithBase "L1").1.get nsBase basedPlan.remoteId = none ∧
      Links.remoteFor (StateT.run (SyncM.process scriptedRunner (.ofKind .issue) false basedPlan)
          { store := (Links.unlink linkedWithBase "L1").1, clock := 0, wallClock := 0 }).2.store
          basedPlan.localId = .ok none ∧
      Links.localFor (StateT.run (SyncM.process scriptedRunner (.ofKind .issue) false basedPlan)
          { store := (Links.unlink linkedWithBase "L1").1, clock := 0, wallClock := 0 }).2.store
          basedPlan.remoteId = .ok none ∧
      (StateT.run (SyncM.process scriptedRunner (.ofKind .issue) false basedPlan)
          { store := (Links.unlink linkedWithBase "L1").1, clock := 0, wallClock := 0 }).2.store.get
          nsBase basedPlan.remoteId = none ∧
      (StateT.run (SyncM.process scriptedRunner (.ofKind .issue) false basedPlan)
          { store := (Links.unlink linkedWithBase "L1").1, clock := 0, wallClock := 0 }).2.tracker =
        ({ store := (Links.unlink linkedWithBase "L1").1, clock := 0, wallClock := 0 } : World).tracker ∧
      ((StateT.run (SyncM.process scriptedRunner (.ofKind .issue) false basedPlan)
          { store := (Links.unlink linkedWithBase "L1").1, clock := 0, wallClock := 0 }).1.1 =
          EntityReport.failed basedPlan.remoteId none "link removed during sync" ∨
        (StateT.run (SyncM.process scriptedRunner (.ofKind .issue) false basedPlan)
          { store := (Links.unlink linkedWithBase "L1").1, clock := 0, wallClock := 0 }).1.1 =
          EntityReport.cancelled basedPlan.remoteId (some basedPlan.localId)) := by
  -- the unlink of `L1` succeeds and returns the record of the pair with item `7`
  have done : (Links.unlink linkedWithBase "L1").2 =
      .ok { localId := "L1", remoteId := "7", linkedAt := 0 } := by
    decide +kernel
  obtain ⟨unlinkedLocal, unlinkedRemote, noBase⟩ := Links.unlink_clears done
  have wellFormed : basedPlan.WellFormed scriptedRunner.options.seedPolicy := ⟨rfl, rfl, .inl rfl⟩
  exact ⟨wellFormed, rfl, Option.some_ne_none _, unlinkedLocal, unlinkedRemote, noBase,
    completed_unlink_is_not_undone (.ofKind .issue) false wellFormed rfl (Option.some_ne_none _)
      { store := (Links.unlink linkedWithBase "L1").1, clock := 0, wallClock := 0 } unlinkedLocal
      unlinkedRemote noBase⟩

/-- A runner over the scripted tracker whose other writer unlinks `L1` as the apply phase
begins. -/
def unlinkingRunner : Runner :=
  { send := World.sendScripted, onApply := fun w => { w with store := (Links.unlink w.store "L1").1 } }

def todoItemJson : Json := .obj [("id", .str "7"), ("title", .str "A"), ("status", .str "todo")]

def firstSyncWorld : World :=
  { store := (Links.link (({} : Store).saveEntity todoIssue) "L1" "7" 0).1
    tracker := { collections := Table.empty.insert "issues" [todoItemJson] }
    clock := 0, wallClock := 0 }

/-- A first sync undoes an unlink: the unlink of `L1` succeeds when the apply phase begins, yet
the run ends with `L1` linked to item `7` again and a base stored. -/
theorem first_sync_relinks_unlinked_pair :
    (Links.remoteFor (Links.unlink firstSyncWorld.store "L1").1 "L1").toOption = some none ∧
      (Links.remoteFor (StateT.run (SyncM.run unlinkingRunner (.ofKind .issue))
        firstSyncWorld).2.store "L1").toOption = some (some "7") ∧
      (StateT.run (SyncM.run unlinkingRunner (.ofKind .issue)) firstSyncWorld).2.store.get
        nsBase "7" ≠ none := by
  decide +kernel

end TrackerSync
