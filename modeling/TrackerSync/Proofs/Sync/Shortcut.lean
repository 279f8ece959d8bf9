import Mathlib
import TrackerSync.Proofs.Sync.Apply
import TrackerSync.Proofs.Snapshot.Content

/-!
Skipping detection when both fingerprints equal the base's does what the detection would do,
unless a set of open conflicts is stored.
-/

namespace TrackerSync

namespace Plan

def localSnapshot (p : Plan) : Snapshot := p.pairing.entity.normalize.1

def detected (policy : SeedPolicy) (p : Plan) : Plan :=
  { p with detection := some (detect policy (p.base.map (·.snapshot)) p.localSnapshot p.remote) }

section

variable (policy : SeedPolicy) (p : Plan)

@[simp] theorem detected_remoteId : (p.detected policy).remoteId = p.remoteId := rfl
@[simp] theorem detected_localId : (p.detected policy).localId = p.localId := rfl
@[simp] theorem detected_pairing : (p.detected policy).pairing = p.pairing := rfl
@[simp] theorem detected_remote : (p.detected policy).remote = p.remote := rfl

end

end Plan

theorem Entity.normalize_labels_canonical (e : Entity) : LabelsCanonical e.normalize.1.labels :=
  canonicalLabels_canonical e.labels

section Agreeing

variable {policy : SeedPolicy} {b loc rem : Snapshot}
  (base : ∀ f, b.get f = loc.get f) (remote : ∀ f, rem.get f = loc.get f)
include base remote

theorem verdictAt_agreeing (f : Field) :
    verdictAt b loc rem f = ⟨f, .unchanged, loc.get f, loc.get f, loc.get f⟩ := by
  simp only [verdictAt, base, remote, classify_self]

theorem changes_agreeing : (detect policy (some b) loc rem).changes = [] := by
  rw [detect_some, Detection.changes, List.filterMap_eq_nil_iff]
  intro v mem
  obtain ⟨f, _, rfl⟩ := List.mem_map.mp mem
  rw [verdictAt_agreeing base remote]
  rfl

theorem conflicts_agreeing : (detect policy (some b) loc rem).conflicts = [] := by
  rw [detect_some, Detection.conflicts, List.filterMap_eq_nil_iff]
  intro v mem
  obtain ⟨f, _, rfl⟩ := List.mem_map.mp mem
  rw [verdictAt_agreeing base remote]
  rfl

theorem standing_agreeing : (detect policy (some b) loc rem).standing = .clean := by
  have unchanged : ∀ v ∈ Field.all.map (verdictAt b loc rem),
      v.verdict = .unchanged ∨ v.verdict = .conflict := by
    intro v mem
    obtain ⟨f, _, rfl⟩ := List.mem_map.mp mem
    rw [verdictAt_agreeing base remote]
    exact .inl rfl
  have none : (detect policy (some b) loc rem).conflicts = [] := conflicts_agreeing base remote
  rw [detect_some, Detection.conflicts] at none
  rw [detect_some, Detection.standing, standingOf_settled unchanged, none]
  rfl

theorem nextBase_agreeing (s : Snapshot) (f : Field) :
    ((detect policy (some b) loc rem).nextBase s).get f = f.readBack (loc.get f) := by
  rw [nextBase_classified, verdictAt_agreeing base remote]
  rfl

end Agreeing

/-- Skipping detection when the fingerprints agree changes nothing, as long as no open conflict is
stored for the pair. -/
theorem apply_skipping_detection_agrees (r : Runner) (collection : Collection) (p : Plan)
    (b : StoredBase) (w : World) (skipped : p.detection = none)
    (linked : p.pairing.isImport = false) (stored : p.base = some b)
    (baseSound : b.fingerprint = b.snapshot.fingerprint)
    (localMatches : p.localSnapshot.fingerprint = b.fingerprint)
    (remoteMatches : p.remote.fingerprint = b.fingerprint)
    (localApart : p.localSnapshot.HashesApart b.snapshot)
    (remoteApart : p.remote.HashesApart b.snapshot)
    (noOpenConflicts : ∃ openSet, SyncState.loadConflicts w.store p.remoteId = .ok openSet ∧
      (openSet.map (·.conflicts)).getD [] = []) :
    (SyncM.apply r collection (p.detected r.options.seedPolicy)).run w =
        (SyncM.apply r collection p).run w ∧
      (p.detected r.options.seedPolicy).report = p.report := by
  -- with no collision, matching fingerprints are matching values
  have base : ∀ f, b.snapshot.get f = p.localSnapshot.get f := fun f =>
    (Snapshot.get_eq_of_fingerprint_eq localApart (localMatches.trans baseSound) f).symm
  have remote : ∀ f, p.remote.get f = p.localSnapshot.get f := fun f =>
    (Snapshot.get_eq_of_fingerprint_eq remoteApart (remoteMatches.trans baseSound) f).trans (base f)
  have canonical : LabelsCanonical p.localSnapshot.labels :=
    Entity.normalize_labels_canonical p.pairing.entity
  set d := detect r.options.seedPolicy (some b.snapshot) p.localSnapshot p.remote with hd
  have slow : (p.detected r.options.seedPolicy).detection = some d := by
    simp [Plan.detected, stored, hd]
  -- the next base holds the local values, so it has the stored fingerprint
  have baseStays : p.base.map (·.fingerprint) =
      some (StoredBase.ofSnapshot (d.nextBase p.remote)).fingerprint := by
    rw [stored, Option.map_some, ← localMatches]
    refine congrArg some (Snapshot.fingerprint_eq_of_get_eq fun f => ?_).symm
    rw [nextBase_agreeing base remote, Snapshot.readBack_get _ canonical]
  have noChanges : d.changes = [] := changes_agreeing base remote
  have noConflicts : d.conflicts = [] := conflicts_agreeing base remote
  have clean : d.standing = .clean := standing_agreeing base remote
  have classified : d.isSeed = false := by rw [hd, detect_some]; rfl
  obtain ⟨openSet, read, empty⟩ := noOpenConflicts
  refine ⟨?_, ?_⟩
  · rw [SyncM.apply_of_settled r collection _ d w openSet slow noChanges linked baseStays read
      (empty.trans noConflicts.symm), SyncM.apply_of_skipped r collection p w skipped]
    rfl
  · simp [Plan.report, Plan.outcome, Plan.changes, slow, skipped, linked, noChanges, noConflicts,
      clean, classified]

/-- An issue titled `A`, as the tracker lists it and as both sides last agreed on it. -/
def agreedItem : Snapshot := { id := "7", title := some "A" }

/-- The plan of a linked pair whose local item, remote item and base all hold `agreedItem`'s
values, so that detection is skipped. -/
def agreedPlan : Plan :=
  { remoteId := "7", localId := "L1"
    pairing := .linked { id := "L1", kind := .issue, title := "A", status := "", updatedAt := 0 }
    remote := agreedItem, base := some (StoredBase.ofSnapshot agreedItem), detection := none }

def scriptedRunner : Runner := { send := World.sendScripted }

theorem agreedPlan_local (f : Field) : agreedPlan.localSnapshot.get f = agreedItem.get f := by
  cases f <;> simp [agreedPlan, agreedItem, Plan.localSnapshot, Entity.normalize,
    Snapshot.canonicalize, Snapshot.get, canonicalLabels, dedupAdjacent, nonEmpty, Pairing.entity,
    Text.isBlankText]

theorem apply_skipping_detection_agrees_on_agreed_item :
    agreedPlan.localSnapshot.fingerprint = (StoredBase.ofSnapshot agreedItem).fingerprint ∧
      agreedPlan.localSnapshot.HashesApart agreedItem ∧
      SyncState.loadConflicts {} agreedPlan.remoteId = .ok none ∧
      ((SyncM.apply scriptedRunner (.ofKind .issue)
          (agreedPlan.detected scriptedRunner.options.seedPolicy)).run
          { store := {}, clock := 0, wallClock := 0 } =
        (SyncM.apply scriptedRunner (.ofKind .issue) agreedPlan).run
          { store := {}, clock := 0, wallClock := 0 } ∧
        (agreedPlan.detected scriptedRunner.options.seedPolicy).report = agreedPlan.report) := by
  have localMatches := Snapshot.fingerprint_eq_of_get_eq agreedPlan_local
  have localApart : agreedPlan.localSnapshot.HashesApart agreedItem := fun _ =>
    Snapshot.contentText_eq_of_get_eq agreedPlan_local
  exact ⟨localMatches, localApart, rfl,
    apply_skipping_detection_agrees scriptedRunner (.ofKind .issue) agreedPlan
      (StoredBase.ofSnapshot agreedItem) { store := {}, clock := 0, wallClock := 0 } rfl rfl rfl rfl
      localMatches rfl localApart (fun _ => rfl) ⟨none, rfl, rfl⟩⟩

/-- The open conflicts an earlier run left on the pair: the status, `done` here against
`blocked` there over a base `todo`. -/
def leftoverConflicts : ConflictSet :=
  { localId := "L1", remoteId := "7", detectedAt := 0
    conflicts := [⟨.status, .text (some "done"), .text (some "blocked"), .text (some "todo")⟩] }

def leftoverWorld : World :=
  { store := ({} : Store).put nsConflicts "7" (Json.compact leftoverConflicts.toJson)
    clock := 0, wallClock := 0 }

theorem leftoverConflicts_read :
    SyncState.loadConflicts leftoverWorld.store "7" = .ok (some leftoverConflicts) := by
  cbv

/-- Both sides were edited back to the base after a conflicted run: detection is skipped and the
open conflicts stay stored, while applying the plan with a detection clears them. -/
theorem leftover_conflicts_defeat_skipping_detection :
    agreedPlan.detection = none ∧
      agreedPlan.localSnapshot.fingerprint = (StoredBase.ofSnapshot agreedItem).fingerprint ∧
      agreedPlan.remote.fingerprint = (StoredBase.ofSnapshot agreedItem).fingerprint ∧
      (SyncM.apply scriptedRunner (.ofKind .issue)
          (agreedPlan.detected scriptedRunner.options.seedPolicy)).run leftoverWorld ≠
        (SyncM.apply scriptedRunner (.ofKind .issue) agreedPlan).run leftoverWorld := by
  refine ⟨rfl, Snapshot.fingerprint_eq_of_get_eq agreedPlan_local, rfl, fun same => ?_⟩
  have base : ∀ f, agreedItem.get f = agreedPlan.localSnapshot.get f := fun f =>
    (agreedPlan_local f).symm
  have fast := SyncM.apply_of_skipped scriptedRunner (.ofKind .issue) agreedPlan leftoverWorld rfl
  -- skipping, the result is a success and only the cache key is written
  have fastSucceeds :
      ((SyncM.apply scriptedRunner (.ofKind .issue) agreedPlan).run leftoverWorld).1 = .ok () := by
    rw [fast]
    rfl
  have fastKeeps :
      ((SyncM.apply scriptedRunner (.ofKind .issue) agreedPlan).run leftoverWorld).2.store.get
        nsConflicts "7" = some (Json.compact leftoverConflicts.toJson) := by
    rw [fast]
    show ((SyncM.refreshCache scriptedRunner agreedPlan).run leftoverWorld).2.store.get _ _ = _
    rw [SyncM.refreshCache_store, Store.writeBatch_get_of_ne rfl (by simp [Cache.putOp,
      Write.target, nsCache, nsConflicts])]
    simp [leftoverWorld]
  -- with the detection, the same success must have cleared the set
  have slowClears := SyncM.apply_clears_stale_conflicts scriptedRunner (.ofKind .issue)
    (agreedPlan.detected scriptedRunner.options.seedPolicy) _ leftoverWorld leftoverConflicts rfl
    (changes_agreeing base base) rfl (conflicts_agreeing base base)
    leftoverConflicts_read (by simp [leftoverConflicts]) (same ▸ fastSucceeds)
  rw [same] at slowClears
  exact Option.some_ne_none _ (fastKeeps.symm.trans slowClears)

end TrackerSync
