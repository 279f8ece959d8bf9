import TrackerSync.Proofs.Sync.Edits
import TrackerSync.Proofs.Sync.Unlink
import TrackerSync.Proofs.Normalized.NormalForm

/-!
A committed entity settles: comparing again finds nothing to write and the same conflicts.
-/

namespace TrackerSync

namespace Snapshot

def SameFields (s t : Snapshot) : Prop := ∀ f, s.get f = t.get f

theorem SameFields.trans {s t u : Snapshot} (first : s.SameFields t) (second : t.SameFields u) :
    s.SameFields u :=
  fun f => (first f).trans (second f)

theorem SameFields.set {s t : Snapshot} (same : s.SameFields t) (f : Field) (v : FieldValue) :
    (s.set f v).SameFields (t.set f v) := by
  intro g
  by_cases written : f = g
  · subst written
    rw [get_set_self, get_set_self]
  · rw [get_set_of_ne _ _ written, get_set_of_ne _ _ written, same g]

theorem SameFields.foldl_set {s t : Snapshot} (same : s.SameFields t) (changes : List FieldChange) :
    (changes.foldl (fun s c => s.set c.field c.value) s).SameFields
      (changes.foldl (fun s c => s.set c.field c.value) t) := by
  induction changes generalizing s t with
  | nil => exact same
  | cons c rest ih => exact ih (same.set c.field c.value)

end Snapshot

theorem detect_sameFields (policy : SeedPolicy) {b b' loc loc' rem rem' : Snapshot}
    (base : b.SameFields b') (localSide : loc.SameFields loc') (remoteSide : rem.SameFields rem') :
    detect policy (some b) loc rem = detect policy (some b') loc' rem' := by
  rw [detect_some, detect_some]
  congr 1
  refine List.map_congr_left fun f _ => ?_
  simp only [verdictAt, base f, localSide f, remoteSide f]

theorem nonEmpty_getD (x : Option String) : nonEmpty (some (x.getD "")) = nonEmpty x := by
  cases x <;> rfl

theorem Snapshot.canonicalLabels_labelsOf (v : FieldValue) :
    canonicalLabels (Snapshot.labelsOf v) = Snapshot.labelsOf v := by
  cases v <;> exact canonicalLabels_eq_self (canonicalLabels_canonical _)

/-- A value that, written as a status, is already canonical: a status read from the tracker. -/
def Field.Settled (f : Field) (v : FieldValue) : Prop :=
  f = .status → ∀ t, Snapshot.textOf v = some t → Status.canonical t = t

theorem Snapshot.settled_get {rem : Snapshot}
    (canonical : ∀ t, rem.status = some t → Status.canonical t = t) (f : Field) :
    f.Settled (rem.get f) := by
  rintro rfl t written
  simp only [Snapshot.get, Snapshot.textOf, nonEmpty_nonEmpty] at written
  exact canonical t (nonEmpty_eq_some written).1

namespace Entity

theorem normalize_stamped (e : Entity) (now : Int) :
    ({ e with updatedAt := now } : Entity).normalize.1.SameFields e.normalize.1 := by
  intro f
  cases f <;> rfl

theorem normalize_status_written (e : Entity) (v : FieldValue) (settled : Field.status.Settled v) :
    (e.applyChange .status v).normalize.1.get .status = Field.status.readBack v := by
  rw [normalize_get_status, Field.readBack]
  change FieldValue.text (nonEmpty (if Text.isBlankText ((Snapshot.textOf v).getD "") then none
    else some (Status.canonical ((Snapshot.textOf v).getD "")))) = _
  cases written : Snapshot.textOf v with
  | none => rfl
  | some t =>
    by_cases empty : t = ""
    · subst empty
      rfl
    have stable := settled rfl t written
    have notBlank : Text.isBlankText t = false := by
      have := Status.isBlankText_canonical (s := t) (by rw [stable]; exact empty)
      rwa [stable] at this
    simp [notBlank, stable]

theorem normalize_applyChange (e : Entity) (f : Field) (v : FieldValue) (settled : f.Settled v) :
    (e.applyChange f v).normalize.1.SameFields (e.normalize.1.set f v) := by
  intro g
  by_cases other : f = g
  · subst other
    rw [Snapshot.get_set_self]
    cases f with
    | status => exact normalize_status_written e v settled
    | labels =>
      simp [applyChange, normalize, Snapshot.canonicalize, Snapshot.get, Field.readBack,
        Snapshot.canonicalLabels_labelsOf]
    | _ => simp [applyChange, normalize, Snapshot.canonicalize, Snapshot.get, Field.readBack,
        nonEmpty_getD, nonEmpty_nonEmpty]
  · rw [Snapshot.get_set_of_ne _ _ other]
    cases f <;> cases g <;> first | exact absurd rfl other | rfl

end Entity

namespace Entity

/-- Writing settled values into a local item one by one writes them into its snapshot. -/
theorem normalize_foldl (changes : List FieldChange) (e : Entity)
    (settled : ∀ c ∈ changes, c.field.Settled c.value) :
    (changes.foldl (fun e c => e.applyChange c.field c.value) e).normalize.1.SameFields
      (changes.foldl (fun s c => s.set c.field c.value) e.normalize.1) := by
  induction changes generalizing e with
  | nil => exact fun _ => rfl
  | cons c rest ih =>
    have first := normalize_applyChange e c.field c.value (settled c List.mem_cons_self)
    exact (ih _ fun c' mem => settled c' (List.mem_cons_of_mem c mem)).trans
      (first.foldl_set rest)

end Entity

/-- The local item a plan saves reads, field by field, as its local snapshot with the plan's
to-local values written. -/
theorem Plan.updated_sameFields (q : Plan) (now : Int)
    (settled : ∀ c ∈ q.toLocal, c.field.Settled c.value) :
    (q.updated now).normalize.1.SameFields
      (q.toLocal.foldl (fun s c => s.set c.field c.value) q.localSnapshot) :=
  (Entity.normalize_stamped _ now).trans (Entity.normalize_foldl q.toLocal _ settled)

def Field.keys : Field → List String
  | .title => ["title"]
  | .status => ["status", "state"]
  | .assignee => ["assignee"]
  | .milestone => ["milestone"]
  | .description => ["headline", "description", "body"]
  | .labels => ["labels"]

theorem Field.keys_name (f g : Field) : g.name ∈ f.keys → g = f := by
  cases f <;> cases g <;> decide +kernel

theorem projectPayload_get {m m' : List (String × Json)} {s s' : Snapshot}
    (read : (projectPayload m).1 = .present s) (read' : (projectPayload m').1 = .present s')
    {f : Field} (same : ∀ k ∈ f.keys, Obj.get? m k = Obj.get? m' k) : s.get f = s'.get f := by
  unfold projectPayload at read read'
  split at read
  · cases read
  split at read'
  · cases read'
  cases read
  cases read'
  cases f <;> simp only [Field.keys, List.mem_cons, List.not_mem_nil, or_false, forall_eq_or_imp,
    forall_eq] at same <;>
    simp [Snapshot.canonicalize, Snapshot.get, stringAt, personAt, namedAt, labelsAt, firstText,
      same]

theorem Obj.get?_foldl_insert_of_none {ms ps : List (String × Json)} {k : String}
    (absent : Obj.get? ps k = none) :
    Obj.get? (ps.foldl (fun acc (k, v) => Obj.insert acc k v) ms) k = Obj.get? ms k := by
  unfold Obj.get? at absent
  have missing : ps.reverse.find? (·.1 == k) = none := by
    rw [List.find?_eq_none]
    intro x mem
    exact List.find?_eq_none.mp (Option.map_eq_none_iff.mp absent) x (List.mem_reverse.mp mem)
  rw [Obj.get?_foldl_insert, missing]
  rfl

/-- A tracker that merges a push into an item keeps every field the push does not name. -/
theorem normalize_mergeInto_get {item : Json} {before after : Snapshot}
    {fields : List (Field × FieldValue)}
    (listed : (RawRecord.payload item).normalize.1 = .present before)
    (answered : (RawRecord.payload
      (Remote.mergeInto item (.obj (fieldParams fields)))).normalize.1 = .present after)
    {g : Field} (untouched : ∀ x ∈ fields, x.1 ≠ g) : after.get g = before.get g := by
  obtain ⟨m, rfl⟩ := payload_obj listed
  rw [normalize_payload_obj] at listed
  rw [Remote.mergeInto, normalize_payload_obj] at answered
  refine projectPayload_get answered listed fun k key => ?_
  apply Obj.get?_foldl_insert_of_none
  exact fieldParams_get_none fun x listed' named =>
    untouched x listed' (Field.keys_name g x.1 (named ▸ key))

theorem listed_canonical {item : Json} {rem : Snapshot}
    (listed : (RawRecord.payload item).normalize.1 = .present rem) :
    LabelsCanonical rem.labels ∧ ∀ t, rem.status = some t → Status.canonical t = t :=
  ⟨(RawRecord.normalize_canonical listed).1.labels, payload_statusCanonical listed⟩

def changeAt (policy : SeedPolicy) (base : Option Snapshot) (loc rem : Snapshot) (f : Field) :
    Option FieldChange :=
  match base with
  | none => (seedAt policy loc rem f).change?
  | some b => (verdictAt b loc rem f).change?

section Changes

variable {policy : SeedPolicy} {base : Option Snapshot} {loc rem : Snapshot}

theorem changeAt_of_mem {c : FieldChange} (mem : c ∈ (detect policy base loc rem).changes) :
    changeAt policy base loc rem c.field = some c := by
  cases base <;> exact mem_changes mem

theorem mem_of_changeAt {f : Field} {c : FieldChange} (made : changeAt policy base loc rem f = some c) :
    c ∈ (detect policy base loc rem).changes ∧ c.field = f := by
  cases base with
  | none =>
    refine ⟨?_, SeedField.change?_field _ c made⟩
    rw [detect_none, Detection.changes, List.mem_filterMap]
    exact ⟨_, List.mem_map_of_mem (Field.mem_all f), made⟩
  | some b =>
    refine ⟨?_, FieldVerdict.change?_field _ c made⟩
    rw [detect_some, Detection.changes, List.mem_filterMap]
    exact ⟨_, List.mem_map_of_mem (Field.mem_all f), made⟩

/-- A change toward the local side carries the remote value, one toward the tracker the local
value. -/
theorem changeAt_value {f : Field} {c : FieldChange} (made : changeAt policy base loc rem f = some c) :
    (c.direction = .toLocal → c.value = rem.get f) ∧ (c.direction = .toRemote → c.value = loc.get f) := by
  cases base with
  | none =>
    simp only [changeAt, SeedField.change?, Option.map_eq_some_iff] at made
    obtain ⟨d, -, rfl⟩ := made
    cases d <;> simp [seedAt]
  | some b =>
    simp only [changeAt, FieldVerdict.change?] at made
    split at made <;> cases made <;> simp [verdictAt]

theorem side_get (s : Snapshot) (dir : Direction) (f : Field) :
    (s.applyChanges dir (detect policy base loc rem).changes).get f =
      (((changeAt policy base loc rem f).filter (·.direction == dir)).map
        fun c => f.readBack c.value).getD (s.get f) := by
  cases base with
  | none => exact seed_side_field policy loc rem dir s f
  | some b => exact classified_side_field policy b loc rem dir s f

theorem nextBase_sameFields (s s' : Snapshot) :
    ((detect policy base loc rem).nextBase s).SameFields ((detect policy base loc rem).nextBase s') := by
  intro f
  cases base with
  | none => rw [nextBase_seed, nextBase_seed]
  | some b => rw [nextBase_classified, nextBase_classified]

end Changes

namespace Plan

section Committed

variable {policy : SeedPolicy} {q : Plan} (wellFormed : q.WellFormed policy) {d : Detection}
  (detected : q.detection = some d)
include wellFormed detected

theorem detection_made : d = detect policy (q.base.map (·.snapshot)) q.localSnapshot q.remote := by
  rcases wellFormed.detection with nothing | made
  · rw [detected] at nothing
    cases nothing
  · rw [detected] at made
    exact Option.some.inj made

theorem written_changeAt {c : FieldChange} (mem : c ∈ q.changes) :
    changeAt policy (q.base.map (·.snapshot)) q.localSnapshot q.remote c.field = some c := by
  rw [Plan.changes, detected, detection_made wellFormed detected] at mem
  exact changeAt_of_mem mem

/-- The local item the plan saves reads as its local side after one round of detection. -/
theorem updated_localAfter (remoteStatus : ∀ t, q.remote.status = some t → Status.canonical t = t)
    (now : Int) : (q.updated now).normalize.1.SameFields (d.localAfter q.localSnapshot) := by
  have settled : ∀ c ∈ q.toLocal, c.field.Settled c.value := by
    intro c mem
    obtain ⟨inChanges, toward⟩ := List.mem_filter.mp mem
    have value := (changeAt_value (written_changeAt wellFormed detected inChanges)).1
      (by simpa using toward)
    rw [value]
    exact Snapshot.settled_get remoteStatus c.field
  have written : d.localAfter q.localSnapshot =
      q.toLocal.foldl (fun s c => s.set c.field c.value) q.localSnapshot := by
    rw [Detection.localAfter, Snapshot.applyChanges, Plan.toLocal, Plan.changes, detected]
    rfl
  rw [written]
  exact q.updated_sameFields now settled

/-- The tracker's answer to the push, merged into the listed item, reads as the remote side after
one round of detection, when it kept every pushed value. -/
theorem answer_remoteAfter {item : Json} {after : Snapshot}
    (listed : (RawRecord.payload item).normalize.1 = .present q.remote)
    (answered : (RawRecord.payload
      (Remote.mergeInto item (.obj (fieldParams (pushedFields q.toRemote))))).normalize.1 =
        .present after)
    (kept : ∀ c ∈ q.toRemote, after.get c.field = c.value) :
    after.SameFields (d.remoteAfter q.remote) := by
  have made := detection_made wellFormed detected
  have pushedHere : ∀ c ∈ q.toRemote,
      changeAt policy (q.base.map (·.snapshot)) q.localSnapshot q.remote c.field = some c ∧
        c.direction = .toRemote := by
    intro c mem
    obtain ⟨inChanges, toward⟩ := List.mem_filter.mp mem
    exact ⟨written_changeAt wellFormed detected inChanges, by simpa using toward⟩
  -- a field no change pushes is kept by the merge
  have unpushed : ∀ g, (∀ c ∈ q.toRemote, c.field = g → False) → after.get g = q.remote.get g :=
    fun g none => normalize_mergeInto_get listed answered fun x pushed same => by
      obtain ⟨c, mem, rfl⟩ := List.mem_map.mp pushed
      exact none c mem same
  intro g
  rw [made, Detection.remoteAfter, side_get]
  cases change : changeAt policy (q.base.map (·.snapshot)) q.localSnapshot q.remote g with
  | none =>
    refine unpushed g fun c mem same => ?_
    have found := (pushedHere c mem).1
    rw [same, change] at found
    cases found
  | some c =>
    by_cases toward : c.direction = .toRemote
    · obtain ⟨inChanges, field⟩ := mem_of_changeAt change
      have pushed : c ∈ q.toRemote := by
        refine List.mem_filter.mpr ⟨?_, by simp [toward]⟩
        rw [Plan.changes, detected, made]
        exact inChanges
      have value := (changeAt_value change).2 toward
      simp only [Option.filter, toward, beq_self_eq_true, if_true, Option.map_some, Option.getD_some]
      rw [← field, kept c pushed, value, field]
      exact (Snapshot.readBack_get _ (Entity.normalize_labels_canonical q.pairing.entity) g).symm
    · have away : (c.direction == .toRemote) = false := by simpa using toward
      simp only [Option.filter, away]
      refine unpushed g fun c' mem same => ?_
      obtain ⟨found, toward'⟩ := pushedHere c' mem
      rw [same, change] at found
      cases found
      exact toward toward'

end Committed

end Plan

/-- A committed entity settles: comparing it again against what its commit left writes nothing and
finds the same conflicts. -/
theorem committed_entity_settles {policy : SeedPolicy} {q : Plan} (wellFormed : q.WellFormed policy)
    {d : Detection} (detected : q.detection = some d)
    (baseCanonical : ∀ b ∈ q.base, LabelsCanonical b.snapshot.labels) {item : Json}
    {after : Snapshot} (listed : (RawRecord.payload item).normalize.1 = .present q.remote)
    (answered : (RawRecord.payload
      (Remote.mergeInto item (.obj (fieldParams (pushedFields q.toRemote))))).normalize.1 =
        .present after)
    (kept : ∀ c ∈ q.toRemote, after.get c.field = c.value) (now : Int) :
    (detect policy (some (d.nextBase after)) (q.updated now).normalize.1 after).changes = [] ∧
      (detect policy (some (d.nextBase after)) (q.updated now).normalize.1 after).conflicts =
        d.conflicts ∧
      (detect policy (some (d.nextBase after)) (q.updated now).normalize.1 after).standing =
        if d.conflicts = [] then .clean else .conflicted := by
  obtain ⟨remoteLabels, remoteStatus⟩ := listed_canonical listed
  have made := Plan.detection_made wellFormed detected
  have again : detect policy (some (d.nextBase after)) (q.updated now).normalize.1 after =
      redetect policy (q.base.map (·.snapshot)) q.localSnapshot q.remote := by
    have localSide := Plan.updated_localAfter wellFormed detected remoteStatus now
    have remoteSide := Plan.answer_remoteAfter wellFormed detected listed answered kept
    rw [made] at localSide remoteSide ⊢
    exact detect_sameFields policy (nextBase_sameFields after q.remote) localSide remoteSide
  have bases : ∀ b ∈ q.base.map (·.snapshot), LabelsCanonical b.labels := by
    intro b mem
    cases stored : q.base with
    | none =>
      rw [stored] at mem
      cases mem
    | some sb =>
      rw [stored] at mem
      cases mem
      exact baseCanonical sb stored
  have round := detect_round_settles policy _ _ _ bases
    (Entity.normalize_labels_canonical q.pairing.entity) remoteLabels
  rw [again, made]
  exact ⟨round.nothingToWrite, round.sameConflicts, round.standing⟩

theorem Normalized.eq_present {α : Type} {x : Normalized α} {a : α} (read : x.toOption = some a) :
    x = .present a := by
  cases x with
  | present b => cases read; rfl
  | absent _ => cases read

/-- The first sync of `L1` and item `7` fills the local status and pushes nothing; comparing again
settles. -/
theorem committed_entity_settles_on_first_sync :
    fillStatusPlan.WellFormed .fillEmptyLocal ∧
      fillStatusPlan.detection = some (detect .fillEmptyLocal none unsetStatusItem.normalize.1 todoItem) ∧
      (∀ b ∈ fillStatusPlan.base, LabelsCanonical b.snapshot.labels) ∧
      (RawRecord.payload todoItemJson).normalize.1 = .present fillStatusPlan.remote ∧
      (RawRecord.payload (Remote.mergeInto todoItemJson
        (.obj (fieldParams (pushedFields fillStatusPlan.toRemote))))).normalize.1 = .present todoItem ∧
      (∀ c ∈ fillStatusPlan.toRemote, todoItem.get c.field = c.value) ∧
      (detect .fillEmptyLocal
          (some ((detect .fillEmptyLocal none unsetStatusItem.normalize.1 todoItem).nextBase todoItem))
          (fillStatusPlan.updated 5).normalize.1 todoItem).changes = [] ∧
      (detect .fillEmptyLocal
          (some ((detect .fillEmptyLocal none unsetStatusItem.normalize.1 todoItem).nextBase todoItem))
          (fillStatusPlan.updated 5).normalize.1 todoItem).conflicts =
        (detect .fillEmptyLocal none unsetStatusItem.normalize.1 todoItem).conflicts ∧
      (detect .fillEmptyLocal
          (some ((detect .fillEmptyLocal none unsetStatusItem.normalize.1 todoItem).nextBase todoItem))
          (fillStatusPlan.updated 5).normalize.1 todoItem).standing =
        if (detect .fillEmptyLocal none unsetStatusItem.normalize.1 todoItem).conflicts = [] then
          .clean else .conflicted := by
  have wellFormed : fillStatusPlan.WellFormed .fillEmptyLocal := ⟨rfl, rfl, .inr rfl⟩
  have baseCanonical : ∀ b ∈ fillStatusPlan.base, LabelsCanonical b.snapshot.labels :=
    fun b mem => by cases mem
  -- the plan pushes nothing: it only fills the local status
  have nothingPushed : fillStatusPlan.toRemote = [] := by decide +kernel
  have listed : (RawRecord.payload todoItemJson).normalize.1 = .present fillStatusPlan.remote :=
    Normalized.eq_present (by decide +kernel)
  have answered : (RawRecord.payload (Remote.mergeInto todoItemJson
      (.obj (fieldParams (pushedFields fillStatusPlan.toRemote))))).normalize.1 = .present todoItem := by
    rw [nothingPushed]
    exact listed
  have kept : ∀ c ∈ fillStatusPlan.toRemote, todoItem.get c.field = c.value := by
    rw [nothingPushed]
    intro c mem
    cases mem
  exact ⟨wellFormed, rfl, baseCanonical, listed, answered, kept,
    committed_entity_settles wellFormed rfl baseCanonical listed answered kept 5⟩

end TrackerSync