import Mathlib
import TrackerSync.Detection.Basic
import TrackerSync.Proofs.Snapshot.Writes

/-!
One round of detection settles every field it does not report as a conflict, so a second
round finds nothing to write and the same conflicts.
-/

namespace TrackerSync

instance : LawfulBEq Verdict where
  eq_of_beq {a b} := by cases a <;> cases b <;> decide
  rfl {a} := by cases a <;> rfl

instance : LawfulBEq Direction where
  eq_of_beq {a b} := by cases a <;> cases b <;> decide
  rfl {a} := by cases a <;> rfl

theorem classify_eq (b l r : FieldValue) :
    classify b l r =
      if b = l then (if b = r then .unchanged else .remoteOnly)
      else if b = r then .localOnly else if l = r then .converged else .conflict := by
  simp only [classify, beq_iff_eq]

theorem classify_self (v : FieldValue) : classify v v v = .unchanged := by
  simp [classify_eq]

theorem seedDirection_eq_none {policy : SeedPolicy} {l r : FieldValue} :
    seedDirection policy l r = none ↔ l = r := by
  by_cases same : l = r
  · simp [seedDirection, same]
  · simp only [seedDirection, beq_iff_eq, same, if_false, iff_false]
    cases policy <;> by_cases emptyL : l.isEmpty <;> by_cases emptyR : r.isEmpty <;>
      simp [emptyL, emptyR]

theorem SeedField.change?_field (sf : SeedField) (c : FieldChange) (h : sf.change? = some c) :
    c.field = sf.field := by
  simp only [SeedField.change?, Option.map_eq_some_iff] at h
  obtain ⟨_, _, rfl⟩ := h
  rfl

theorem FieldVerdict.change?_field (v : FieldVerdict) (c : FieldChange) (h : v.change? = some c) :
    c.field = v.field := by
  unfold FieldVerdict.change? at h
  split at h <;> cases h <;> rfl

theorem FieldVerdict.conflict?_eq_none {v : FieldVerdict} (h : v.verdict ≠ .conflict) :
    v.conflict? = none := by
  simp [FieldVerdict.conflict?, h]

namespace Snapshot

def applyChanges (s : Snapshot) (dir : Direction) (changes : List FieldChange) : Snapshot :=
  (changes.filter (·.direction == dir)).foldl (fun s c => s.set c.field c.value) s

/-- Changes made field by field, each about its own field: a field reads back its own change
when that goes toward this side, or what it held. -/
theorem get_applyChanges (s : Snapshot) (dir : Direction) (step : Field → Option FieldChange)
    (own : ∀ f c, step f = some c → c.field = f) (f : Field) :
    (s.applyChanges dir (Field.all.filterMap step)).get f =
      (((step f).filter (·.direction == dir)).map fun c => f.readBack c.value).getD (s.get f) := by
  have shaped : ((Field.all.filterMap step).filter (·.direction == dir)).map
      (fun c => (c.field, c.value)) =
      Field.all.filterMap fun g =>
        (((step g).filter (·.direction == dir)).map (·.value)).map (g, ·) := by
    rw [List.filter_filterMap, List.map_filterMap]
    congr 1
    funext g
    cases stepped : step g with
    | none => rfl
    | some c =>
      have field := own g c stepped
      by_cases toward : c.direction = dir
      · simp [Option.filter, toward, field]
      · simp [Option.filter, toward]
  have folded : s.applyChanges dir (Field.all.filterMap step) =
      s.setAll (((Field.all.filterMap step).filter (·.direction == dir)).map
        fun c => (c.field, c.value)) := by
    rw [applyChanges, setAll, List.foldl_map]
  rw [folded, shaped, get_setAll_all, Option.map_map]
  rfl

end Snapshot

def seedAt (policy : SeedPolicy) (loc rem : Snapshot) (f : Field) : SeedField :=
  ⟨f, loc.get f, rem.get f, seedDirection policy (loc.get f) (rem.get f)⟩

def verdictAt (b loc rem : Snapshot) (f : Field) : FieldVerdict :=
  ⟨f, classify (b.get f) (loc.get f) (rem.get f), b.get f, loc.get f, rem.get f⟩

def conflictAt (base : Option Snapshot) (loc rem : Snapshot) (f : Field) :
    Option ConflictRecord :=
  base.bind fun b => (verdictAt b loc rem f).conflict?

theorem detect_none (policy : SeedPolicy) (loc rem : Snapshot) :
    detect policy none loc rem = .seed (Field.all.map (seedAt policy loc rem)) := rfl

theorem detect_some (policy : SeedPolicy) (b loc rem : Snapshot) :
    detect policy (some b) loc rem = .classified (Field.all.map (verdictAt b loc rem)) := rfl

theorem changes_none (policy : SeedPolicy) (loc rem : Snapshot) :
    (detect policy none loc rem).changes =
      Field.all.filterMap fun g => (seedAt policy loc rem g).change? := by
  rw [detect_none, Detection.changes, List.filterMap_map]
  rfl

theorem changes_some (policy : SeedPolicy) (b loc rem : Snapshot) :
    (detect policy (some b) loc rem).changes =
      Field.all.filterMap fun g => (verdictAt b loc rem g).change? := by
  rw [detect_some, Detection.changes, List.filterMap_map]
  rfl

namespace Detection

def localAfter (d : Detection) (loc : Snapshot) : Snapshot := loc.applyChanges .toLocal d.changes

def remoteAfter (d : Detection) (rem : Snapshot) : Snapshot :=
  rem.applyChanges .toRemote d.changes

end Detection

theorem seed_side_field (policy : SeedPolicy) (loc rem : Snapshot) (dir : Direction)
    (s : Snapshot) (f : Field) :
    (s.applyChanges dir (detect policy none loc rem).changes).get f =
      (((seedAt policy loc rem f).change?.filter (·.direction == dir)).map
        fun c => f.readBack c.value).getD (s.get f) := by
  rw [changes_none, Snapshot.get_applyChanges s dir _ (fun g c h => SeedField.change?_field _ c h) f]

theorem classified_side_field (policy : SeedPolicy) (b loc rem : Snapshot) (dir : Direction)
    (s : Snapshot) (f : Field) :
    (s.applyChanges dir (detect policy (some b) loc rem).changes).get f =
      (((verdictAt b loc rem f).change?.filter (·.direction == dir)).map
        fun c => f.readBack c.value).getD (s.get f) := by
  rw [changes_some, Snapshot.get_applyChanges s dir _ (fun g c h => FieldVerdict.change?_field _ c h) f]

theorem nextBase_seed (policy : SeedPolicy) (loc rem s : Snapshot) (f : Field) :
    ((detect policy none loc rem).nextBase s).get f =
      f.readBack (seedAt policy loc rem f).agreed := by
  have every : (detect policy none loc rem).nextBase s =
      s.setAll (Field.all.map fun g => (g, (seedAt policy loc rem g).agreed)) := by
    rw [detect_none, Detection.nextBase, Snapshot.setAll, List.foldl_map, List.foldl_map]
    rfl
  rw [every, Snapshot.get_setAll_every]

theorem nextBase_classified (policy : SeedPolicy) (b loc rem s : Snapshot) (f : Field) :
    ((detect policy (some b) loc rem).nextBase s).get f =
      f.readBack (verdictAt b loc rem f).agreed := by
  have every : (detect policy (some b) loc rem).nextBase s =
      s.setAll (Field.all.map fun g => (g, (verdictAt b loc rem g).agreed)) := by
    rw [detect_some, Detection.nextBase, Snapshot.setAll, List.foldl_map, List.foldl_map]
    rfl
  rw [every, Snapshot.get_setAll_every]

theorem seed_round_field (policy : SeedPolicy) {loc rem : Snapshot}
    (locCanonical : LabelsCanonical loc.labels) (remCanonical : LabelsCanonical rem.labels)
    (f : Field) :
    ((detect policy none loc rem).localAfter loc).get f = (seedAt policy loc rem f).agreed ∧
    ((detect policy none loc rem).remoteAfter rem).get f = (seedAt policy loc rem f).agreed ∧
    ((detect policy none loc rem).nextBase rem).get f = (seedAt policy loc rem f).agreed := by
  have backL := loc.readBack_get locCanonical f
  have backR := rem.readBack_get remCanonical f
  rw [Detection.localAfter, Detection.remoteAfter, seed_side_field, seed_side_field, nextBase_seed]
  cases dir : seedDirection policy (loc.get f) (rem.get f) with
  | none =>
    simp only [seedAt, SeedField.change?, SeedField.agreed, dir, Option.map_none,
      Option.filter_none, Option.getD_none]
    exact ⟨seedDirection_eq_none.mp dir, trivial, backR⟩
  | some d =>
    cases d <;> simp [seedAt, SeedField.change?, SeedField.agreed, dir, Option.filter, backL, backR]

/-- A classified field: each side takes the other's value where only the other changed, and
the next base takes the agreed value. -/
theorem classified_round_field (policy : SeedPolicy) {b loc rem : Snapshot}
    (baseCanonical : LabelsCanonical b.labels) (locCanonical : LabelsCanonical loc.labels)
    (remCanonical : LabelsCanonical rem.labels) (f : Field) :
    ((detect policy (some b) loc rem).localAfter loc).get f =
      (if (verdictAt b loc rem f).verdict = .remoteOnly then rem.get f else loc.get f) ∧
    ((detect policy (some b) loc rem).remoteAfter rem).get f =
      (if (verdictAt b loc rem f).verdict = .localOnly then loc.get f else rem.get f) ∧
    ((detect policy (some b) loc rem).nextBase rem).get f = (verdictAt b loc rem f).agreed := by
  have backB := b.readBack_get baseCanonical f
  have backL := loc.readBack_get locCanonical f
  have backR := rem.readBack_get remCanonical f
  rw [Detection.localAfter, Detection.remoteAfter, classified_side_field, classified_side_field,
    nextBase_classified]
  cases verdict : classify (b.get f) (loc.get f) (rem.get f) <;>
    simp [verdictAt, FieldVerdict.change?, FieldVerdict.agreed, verdict, Option.filter, backB,
      backL, backR]

theorem conflicts_eq (policy : SeedPolicy) (base : Option Snapshot) (loc rem : Snapshot) :
    (detect policy base loc rem).conflicts = Field.all.filterMap (conflictAt base loc rem) := by
  cases base with
  | none => simp [detect_none, Detection.conflicts, conflictAt]
  | some b =>
    rw [detect_some, Detection.conflicts, List.filterMap_map]
    rfl

theorem mem_conflict_fields {policy : SeedPolicy} {base : Option Snapshot} {loc rem : Snapshot}
    {f : Field} :
    f ∈ (detect policy base loc rem).conflicts.map (·.field) ↔
      ∃ b ∈ base, (verdictAt b loc rem f).verdict = .conflict := by
  rw [conflicts_eq, List.map_filterMap, List.mem_filterMap]
  constructor
  · rintro ⟨g, -, found⟩
    cases base with
    | none => simp [conflictAt] at found
    | some b =>
      by_cases conflicting : (verdictAt b loc rem g).verdict = .conflict
      · simp [conflictAt, FieldVerdict.conflict?, conflicting] at found
        subst found
        exact ⟨b, rfl, conflicting⟩
      · simp [conflictAt, FieldVerdict.conflict?_eq_none conflicting] at found
  · rintro ⟨b, rfl, conflicting⟩
    exact ⟨f, Field.mem_all f, by simp [conflictAt, FieldVerdict.conflict?, conflicting]; rfl⟩

/-- After one round a field either agrees on all three sides and reports no conflict, or is a
conflict whose three values are the old ones. -/
theorem round_field (policy : SeedPolicy) {base : Option Snapshot} {loc rem : Snapshot}
    (baseCanonical : ∀ b ∈ base, LabelsCanonical b.labels)
    (locCanonical : LabelsCanonical loc.labels) (remCanonical : LabelsCanonical rem.labels)
    (f : Field) :
    (conflictAt base loc rem f = none ∧
      ((detect policy base loc rem).localAfter loc).get f =
        ((detect policy base loc rem).remoteAfter rem).get f ∧
      ((detect policy base loc rem).remoteAfter rem).get f =
        ((detect policy base loc rem).nextBase rem).get f) ∨
    (∃ b ∈ base, (verdictAt b loc rem f).verdict = .conflict ∧
      ((detect policy base loc rem).nextBase rem).get f = b.get f ∧
      ((detect policy base loc rem).localAfter loc).get f = loc.get f ∧
      ((detect policy base loc rem).remoteAfter rem).get f = rem.get f) := by
  cases base with
  | none =>
    obtain ⟨localSide, remoteSide, baseSide⟩ := seed_round_field policy locCanonical remCanonical f
    exact .inl ⟨rfl, localSide.trans remoteSide.symm, remoteSide.trans baseSide.symm⟩
  | some b =>
    obtain ⟨localSide, remoteSide, baseSide⟩ :=
      classified_round_field policy (baseCanonical b rfl) locCanonical remCanonical f
    rw [localSide, remoteSide, baseSide]
    by_cases conflicting : (verdictAt b loc rem f).verdict = .conflict
    · refine .inr ⟨b, rfl, conflicting, ?_⟩
      have verdict : classify (b.get f) (loc.get f) (rem.get f) = .conflict := conflicting
      simp [verdict, FieldVerdict.agreed, verdictAt]
    · refine .inl ⟨by simp [conflictAt, FieldVerdict.conflict?_eq_none conflicting], ?_⟩
      -- the four verdicts other than a conflict, read off the three comparisons
      simp only [verdictAt, FieldVerdict.agreed, classify_eq] at conflicting ⊢
      by_cases bl : b.get f = loc.get f <;> by_cases br : b.get f = rem.get f <;>
        by_cases lr : loc.get f = rem.get f <;> simp_all

/-- A list of verdicts with nothing one-sided stands conflicted exactly when it reports a
conflict. -/
theorem standingOf_settled {verdicts : List FieldVerdict}
    (settled : ∀ v ∈ verdicts, v.verdict = .unchanged ∨ v.verdict = .conflict) :
    Detection.standingOf verdicts =
      if verdicts.filterMap FieldVerdict.conflict? = [] then .clean else .conflicted := by
  have noOneSided :
      verdicts.any (fun v => v.verdict == .localOnly || v.verdict == .remoteOnly) = false := by
    simp only [List.any_eq_false, Bool.or_eq_true, beq_iff_eq]
    intro v mem
    rcases settled v mem with same | same <;> simp [same]
  by_cases anyConflict : verdicts.any (·.verdict == .conflict)
  · obtain ⟨v, mem, conflicting⟩ := List.any_eq_true.mp anyConflict
    have reported : verdicts.filterMap FieldVerdict.conflict? ≠ [] := by
      rw [Ne, List.filterMap_eq_nil_iff]
      intro none
      have := none v mem
      simp_all [FieldVerdict.conflict?]
    simp [Detection.standingOf, anyConflict, reported]
  · have unreported : verdicts.filterMap FieldVerdict.conflict? = [] := by
      rw [List.filterMap_eq_nil_iff]
      intro v mem
      have other : v.verdict ≠ .conflict := fun same =>
        anyConflict (List.any_eq_true.mpr ⟨v, mem, by simp [same]⟩)
      exact FieldVerdict.conflict?_eq_none other
    simp [Detection.standingOf, anyConflict, noOneSided, unreported]

/-- Detecting again over what one round leaves: the next base, and both sides with the changes
toward them written. -/
def redetect (policy : SeedPolicy) (base : Option Snapshot) (loc rem : Snapshot) : Detection :=
  let d := detect policy base loc rem
  detect policy (some (d.nextBase rem)) (d.localAfter loc) (d.remoteAfter rem)

theorem redetect_eq (policy : SeedPolicy) (base : Option Snapshot) (loc rem : Snapshot) :
    redetect policy base loc rem =
      .classified (Field.all.map fun f =>
        verdictAt ((detect policy base loc rem).nextBase rem)
          ((detect policy base loc rem).localAfter loc)
          ((detect policy base loc rem).remoteAfter rem) f) :=
  rfl

/-- Detecting again after a round: on every field the verdict is unchanged, or the old conflict
with its old values. -/
theorem redetect_field (policy : SeedPolicy) {base : Option Snapshot} {loc rem : Snapshot}
    (baseCanonical : ∀ b ∈ base, LabelsCanonical b.labels)
    (locCanonical : LabelsCanonical loc.labels) (remCanonical : LabelsCanonical rem.labels)
    (f : Field) :
    let d := detect policy base loc rem
    let v := verdictAt (d.nextBase rem) (d.localAfter loc) (d.remoteAfter rem) f
    v.conflict? = conflictAt base loc rem f ∧ v.change? = none ∧
      (v.verdict = .unchanged ∨ v.verdict = .conflict) := by
  intro d v
  rcases round_field policy baseCanonical locCanonical remCanonical f with
    ⟨unreported, localRemote, remoteBase⟩ | ⟨b, rfl, conflicting, baseSide, localSide, remoteSide⟩
  · have unchanged : v.verdict = .unchanged := by
      change classify _ _ _ = _
      rw [← remoteBase, ← localRemote, classify_self]
    refine ⟨?_, ?_, .inl unchanged⟩
    · rw [unreported, FieldVerdict.conflict?_eq_none (by simp [unchanged])]
    · simp [FieldVerdict.change?, unchanged]
  · have same : v = verdictAt b loc rem f := by
      simp only [v, d, verdictAt, baseSide, localSide, remoteSide]
    rw [same]
    refine ⟨rfl, ?_, .inr conflicting⟩
    simp [FieldVerdict.change?, conflicting]

/-- What one round of detection leaves: on a field not in conflict both sides and the next base
agree, a field in conflict keeps its old values, and detecting again finds nothing to write, the
same conflicts, and stands clean or conflicted accordingly. -/
structure RoundSettled (policy : SeedPolicy) (base : Option Snapshot) (loc rem : Snapshot) :
    Prop where
  agreed : ∀ f, f ∉ (detect policy base loc rem).conflicts.map (·.field) →
    ((detect policy base loc rem).localAfter loc).get f =
        ((detect policy base loc rem).remoteAfter rem).get f ∧
      ((detect policy base loc rem).remoteAfter rem).get f =
        ((detect policy base loc rem).nextBase rem).get f
  kept : ∀ f ∈ (detect policy base loc rem).conflicts.map (·.field),
    (∃ b ∈ base, ((detect policy base loc rem).nextBase rem).get f = b.get f) ∧
      ((detect policy base loc rem).localAfter loc).get f = loc.get f ∧
      ((detect policy base loc rem).remoteAfter rem).get f = rem.get f
  nothingToWrite : (redetect policy base loc rem).changes = []
  sameConflicts : (redetect policy base loc rem).conflicts = (detect policy base loc rem).conflicts
  standing : (redetect policy base loc rem).standing =
    if (detect policy base loc rem).conflicts = [] then .clean else .conflicted

/-- One round of detection settles every field it does not report as a conflict, when the base
and both sides have canonical labels. -/
theorem detect_round_settles (policy : SeedPolicy) (base : Option Snapshot) (loc rem : Snapshot)
    (baseCanonical : ∀ b ∈ base, LabelsCanonical b.labels)
    (locCanonical : LabelsCanonical loc.labels) (remCanonical : LabelsCanonical rem.labels) :
    RoundSettled policy base loc rem := by
  have again := redetect_field policy baseCanonical locCanonical remCanonical
  have sameConflicts : (redetect policy base loc rem).conflicts =
      (detect policy base loc rem).conflicts := by
    rw [redetect_eq, Detection.conflicts, List.filterMap_map, conflicts_eq]
    congr 1
    funext f
    exact (again f).1
  refine ⟨fun f absent => ?_, fun f mem => ?_, ?_, sameConflicts, ?_⟩
  · rcases round_field policy baseCanonical locCanonical remCanonical f with
      ⟨-, localRemote, remoteBase⟩ | ⟨b, found, conflicting, -⟩
    · exact ⟨localRemote, remoteBase⟩
    · exact absurd (mem_conflict_fields.mpr ⟨b, found, conflicting⟩) absent
  · rcases round_field policy baseCanonical locCanonical remCanonical f with
      ⟨unreported, -⟩ | ⟨b, found, -, baseSide, localSide, remoteSide⟩
    · obtain ⟨b, found, conflicting⟩ := mem_conflict_fields.mp mem
      cases found
      simp [conflictAt, FieldVerdict.conflict?, conflicting] at unreported
    · exact ⟨⟨b, found, baseSide⟩, localSide, remoteSide⟩
  · rw [redetect_eq, Detection.changes, List.filterMap_eq_nil_iff]
    intro v mem
    obtain ⟨f, -, rfl⟩ := List.mem_map.mp mem
    exact (again f).2.1
  · rw [redetect_eq, Detection.standing, standingOf_settled, ← Detection.conflicts, ← redetect_eq,
      sameConflicts]
    intro v mem
    obtain ⟨f, -, rfl⟩ := List.mem_map.mp mem
    exact (again f).2.2

/-- A round over a conflicting status, a title changed remotely and a label added locally. -/
theorem detect_round_settles_sample :
    (∀ b ∈ some ({ id := "7", title := "A", status := "todo", labels := ["bug"] } : Snapshot),
        LabelsCanonical b.labels) ∧
      LabelsCanonical ["bug", "ui"] ∧ LabelsCanonical ["bug"] ∧
      RoundSettled .fillEmptyLocal
        (some { id := "7", title := "A", status := "todo", labels := ["bug"] })
        { id := "issue_1", title := "A", status := "in-progress", labels := ["bug", "ui"] }
        { id := "7", title := "B", status := "done", labels := ["bug"] } := by
  have one : LabelsCanonical ["bug"] := ⟨by decide, by decide, by decide⟩
  have two : LabelsCanonical ["bug", "ui"] := ⟨by decide, by decide, by decide⟩
  have base : ∀ b ∈ some ({ id := "7", title := "A", status := "todo", labels := ["bug"] } :
      Snapshot), LabelsCanonical b.labels := by
    intro b mem
    cases Option.mem_some_iff.mp mem
    exact one
  exact ⟨base, two, one, detect_round_settles _ _ _ _ base two one⟩

/-- With a base whose labels are out of order, a conflict on the labels does not keep the base's
value: the next base holds it sorted. -/
theorem noncanonical_base_labels_move :
    LabelsCanonical ["x"] ∧ LabelsCanonical ["y"] ∧
      Field.labels ∈ (detect .fillEmptyLocal (some { id := "1", labels := ["b", "a"] })
        { id := "1", labels := ["x"] } { id := "1", labels := ["y"] }).conflicts.map (·.field) ∧
      ((detect .fillEmptyLocal (some { id := "1", labels := ["b", "a"] })
        { id := "1", labels := ["x"] } { id := "1", labels := ["y"] }).nextBase
          { id := "1", labels := ["y"] }).get .labels ≠ .list ["b", "a"] := by
  refine ⟨⟨by decide, by decide, by decide⟩, ⟨by decide, by decide, by decide⟩, by decide, ?_⟩
  have sorted : canonicalLabels ["b", "a"] = ["a", "b"] := by cbv
  rw [nextBase_classified]
  simp [verdictAt, classify_eq, FieldVerdict.agreed, Field.readBack, Snapshot.labelsOf,
    Snapshot.get, sorted]

end TrackerSync
