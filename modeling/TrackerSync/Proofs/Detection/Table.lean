import TrackerSync.Proofs.Detection.Convergence

/-!
The three-way table: its rows exclude each other, a comparison reports its verdicts in field
order, and a seed loses no information.
-/

namespace TrackerSync

namespace Verdict

/-- The row of the three-way table a verdict stands for, as a condition on a field's base, local
and remote values. -/
def Fits : Verdict → FieldValue → FieldValue → FieldValue → Prop
  | .unchanged, b, l, r => b = l ∧ b = r
  | .localOnly, b, l, r => b ≠ l ∧ b = r
  | .remoteOnly, b, l, r => b = l ∧ b ≠ r
  | .converged, b, l, r => b ≠ l ∧ l = r
  | .conflict, b, l, r => b ≠ l ∧ b ≠ r ∧ l ≠ r

instance (v : Verdict) (b l r : FieldValue) : Decidable (v.Fits b l r) :=
  match v with
  | .unchanged => inferInstanceAs (Decidable (b = l ∧ b = r))
  | .localOnly => inferInstanceAs (Decidable (b ≠ l ∧ b = r))
  | .remoteOnly => inferInstanceAs (Decidable (b = l ∧ b ≠ r))
  | .converged => inferInstanceAs (Decidable (b ≠ l ∧ l = r))
  | .conflict => inferInstanceAs (Decidable (b ≠ l ∧ b ≠ r ∧ l ≠ r))

end Verdict

theorem fits_classify (b l r : FieldValue) : (classify b l r).Fits b l r := by
  rw [classify_eq]
  by_cases bl : b = l
  · by_cases br : b = r
    · rw [if_pos bl, if_pos br]
      exact ⟨bl, br⟩
    · rw [if_pos bl, if_neg br]
      exact ⟨bl, br⟩
  · by_cases br : b = r
    · rw [if_neg bl, if_pos br]
      exact ⟨bl, br⟩
    · by_cases lr : l = r
      · rw [if_neg bl, if_neg br, if_pos lr]
        exact ⟨bl, lr⟩
      · rw [if_neg bl, if_neg br, if_neg lr]
        exact ⟨bl, br, lr⟩

theorem classify_eq_of_fits {b l r : FieldValue} {v : Verdict} (fits : v.Fits b l r) :
    classify b l r = v := by
  cases v with
  | unchanged =>
    obtain ⟨bl, br⟩ := fits
    rw [classify_eq, if_pos bl, if_pos br]
  | localOnly =>
    obtain ⟨bl, br⟩ := fits
    rw [classify_eq, if_neg bl, if_pos br]
  | remoteOnly =>
    obtain ⟨bl, br⟩ := fits
    rw [classify_eq, if_pos bl, if_neg br]
  | converged =>
    obtain ⟨bl, lr⟩ := fits
    have br : b ≠ r := lr ▸ bl
    rw [classify_eq, if_neg bl, if_neg br, if_pos lr]
  | conflict =>
    obtain ⟨bl, br, lr⟩ := fits
    rw [classify_eq, if_neg bl, if_neg br, if_neg lr]

theorem classify_eq_iff {b l r : FieldValue} {v : Verdict} : classify b l r = v ↔ v.Fits b l r :=
  ⟨fun picked => picked ▸ fits_classify b l r, classify_eq_of_fits⟩

/-- The change the table asks for on one field: a local-only value goes to the tracker, a
remote-only value to the local copy, and nothing else moves. -/
def tableChange (b loc rem : Snapshot) (f : Field) : Option FieldChange :=
  if Verdict.localOnly.Fits (b.get f) (loc.get f) (rem.get f) then some ⟨f, .toRemote, loc.get f⟩
  else if Verdict.remoteOnly.Fits (b.get f) (loc.get f) (rem.get f) then
    some ⟨f, .toLocal, rem.get f⟩
  else none

/-- The conflict the table reports on one field, with its local, remote and base values. -/
def tableConflict (b loc rem : Snapshot) (f : Field) : Option ConflictRecord :=
  if Verdict.conflict.Fits (b.get f) (loc.get f) (rem.get f) then
    some ⟨f, loc.get f, rem.get f, b.get f⟩
  else none

theorem verdictAt_change? (b loc rem : Snapshot) (f : Field) :
    (verdictAt b loc rem f).change? = tableChange b loc rem f := by
  simp only [tableChange, ← classify_eq_iff, verdictAt, FieldVerdict.change?]
  cases classify (b.get f) (loc.get f) (rem.get f) <;> simp

theorem verdictAt_conflict? (b loc rem : Snapshot) (f : Field) :
    (verdictAt b loc rem f).conflict? = tableConflict b loc rem f := by
  simp only [tableConflict, ← classify_eq_iff, verdictAt, FieldVerdict.conflict?, beq_iff_eq]

theorem changes_classified (policy : SeedPolicy) (b loc rem : Snapshot) :
    (detect policy (some b) loc rem).changes = Field.all.filterMap (tableChange b loc rem) := by
  rw [changes_some]
  exact List.filterMap_congr fun f _ => verdictAt_change? b loc rem f

theorem conflicts_classified (policy : SeedPolicy) (b loc rem : Snapshot) :
    (detect policy (some b) loc rem).conflicts = Field.all.filterMap (tableConflict b loc rem) := by
  rw [conflicts_eq]
  exact List.filterMap_congr fun f _ => verdictAt_conflict? b loc rem f

theorem SeedField.change?_eq_none_iff {sf : SeedField} : sf.change? = none ↔ sf.direction = none :=
  Option.map_eq_none_iff

theorem FieldVerdict.change?_eq_none_iff {v : FieldVerdict} :
    v.change? = none ↔ ¬(v.verdict = .localOnly ∨ v.verdict = .remoteOnly) := by
  unfold FieldVerdict.change?
  split <;> simp_all

theorem FieldVerdict.conflict?_eq_none_iff {v : FieldVerdict} :
    v.conflict? = none ↔ ¬v.verdict = .conflict := by
  by_cases conflicting : v.verdict = .conflict <;> simp [FieldVerdict.conflict?, conflicting]

namespace Detection

/-- The standing follows from the conflicts and the changes alone: conflicted when there is a
conflict, partial when there are changes only, clean with neither. -/
theorem standing_eq (d : Detection) :
    d.standing =
      if d.conflicts = [] then (if d.changes = [] then .clean else .oneSided) else .conflicted := by
  cases d with
  | seed fields =>
    -- a seed reports no conflict, and a change for every field that has a direction
    have quiet : fields.filterMap SeedField.change? = [] ↔
        fields.any (·.direction.isSome) = false := by
      simp [List.filterMap_eq_nil_iff, SeedField.change?_eq_none_iff]
    simp only [standing, conflicts, changes, quiet]
    cases fields.any (·.direction.isSome) <;> simp
  | classified verdicts =>
    have noConflict : verdicts.filterMap FieldVerdict.conflict? = [] ↔
        verdicts.any (·.verdict == .conflict) = false := by
      simp [List.filterMap_eq_nil_iff, FieldVerdict.conflict?_eq_none_iff]
    have noChange : verdicts.filterMap FieldVerdict.change? = [] ↔
        verdicts.any (fun v => v.verdict == .localOnly || v.verdict == .remoteOnly) = false := by
      simp [List.filterMap_eq_nil_iff, FieldVerdict.change?_eq_none_iff]
    simp only [standing, standingOf, conflicts, changes, noConflict, noChange]
    cases verdicts.any (·.verdict == .conflict) <;>
      cases verdicts.any (fun v => v.verdict == .localOnly || v.verdict == .remoteOnly) <;> simp

end Detection

theorem FieldValue.isEmpty_text_nonEmpty (x : Option String) :
    (FieldValue.text (nonEmpty x)).isEmpty = true ↔ nonEmpty x = none := by
  cases x with
  | none => simp [nonEmpty, FieldValue.isEmpty]
  | some t => by_cases empty : t.isEmpty <;> simp [nonEmpty, FieldValue.isEmpty, empty]

/-- Two empty values of one field are one value: a text field reads an empty text as missing, and
empty labels are the empty list. -/
theorem Snapshot.get_eq_of_isEmpty {s t : Snapshot} {f : Field}
    (emptyS : (s.get f).isEmpty = true) (emptyT : (t.get f).isEmpty = true) : s.get f = t.get f := by
  cases f with
  | labels =>
    simp only [Snapshot.get, FieldValue.isEmpty, List.isEmpty_iff] at emptyS emptyT ⊢
    rw [emptyS, emptyT]
  | _ =>
    simp only [Snapshot.get, FieldValue.isEmpty_text_nonEmpty] at emptyS emptyT ⊢
    rw [emptyS, emptyT]

/-- A field seeded toward the local side is empty there, or the remote side wins and holds a
value. -/
theorem seedDirection_toLocal {policy : SeedPolicy} {l r : FieldValue}
    (toLocal : seedDirection policy l r = some .toLocal) :
    l.isEmpty = true ∨ (r.isEmpty = false ∧ policy = .preferRemote) := by
  unfold seedDirection at toLocal
  by_cases same : (l == r) = true
  · rw [if_pos same] at toLocal
    cases toLocal
  rw [if_neg same] at toLocal
  by_cases emptyL : l.isEmpty = true
  · exact .inl emptyL
  rw [if_neg emptyL] at toLocal
  by_cases emptyR : r.isEmpty = true
  · rw [if_pos emptyR] at toLocal
    cases toLocal
  rw [if_neg emptyR] at toLocal
  cases policy with
  | fillEmptyLocal => cases toLocal
  | preferRemote => exact .inr ⟨by simpa using emptyR, rfl⟩

/-- A field seeded toward the remote side is empty there, or the local side wins and holds a
value. -/
theorem seedDirection_toRemote {policy : SeedPolicy} {l r : FieldValue}
    (toRemote : seedDirection policy l r = some .toRemote) :
    r.isEmpty = true ∨ (l.isEmpty = false ∧ policy = .fillEmptyLocal) := by
  unfold seedDirection at toRemote
  by_cases same : (l == r) = true
  · rw [if_pos same] at toRemote
    cases toRemote
  rw [if_neg same] at toRemote
  by_cases emptyL : l.isEmpty = true
  · rw [if_pos emptyL] at toRemote
    cases toRemote
  rw [if_neg emptyL] at toRemote
  by_cases emptyR : r.isEmpty = true
  · exact .inl emptyR
  rw [if_neg emptyR] at toRemote
  cases policy with
  | fillEmptyLocal => exact .inr ⟨by simpa using emptyL, rfl⟩
  | preferRemote => cases toRemote

/-- A field seeded toward the local side holds a value on the remote side, and is empty on the
local side or the remote side wins. -/
theorem seedAt_toLocal {policy : SeedPolicy} {loc rem : Snapshot} {f : Field}
    (seeded : (seedAt policy loc rem f).direction = some .toLocal) :
    (rem.get f).isEmpty = false ∧ ((loc.get f).isEmpty = true ∨ policy = .preferRemote) := by
  have differ : loc.get f ≠ rem.get f := fun same => by
    rw [seedAt, seedDirection_eq_none.mpr same] at seeded
    cases seeded
  rcases seedDirection_toLocal seeded with emptyL | ⟨held, prefer⟩
  · refine ⟨?_, .inl emptyL⟩
    -- an empty local value differs from the remote one only when that one holds a value
    cases emptyR : (rem.get f).isEmpty
    · rfl
    · exact absurd (Snapshot.get_eq_of_isEmpty emptyL emptyR) differ
  · exact ⟨held, .inr prefer⟩

/-- A field seeded toward the remote side holds a value on the local side, and is empty on the
remote side or the local side wins. -/
theorem seedAt_toRemote {policy : SeedPolicy} {loc rem : Snapshot} {f : Field}
    (seeded : (seedAt policy loc rem f).direction = some .toRemote) :
    (loc.get f).isEmpty = false ∧ ((rem.get f).isEmpty = true ∨ policy = .fillEmptyLocal) := by
  have differ : loc.get f ≠ rem.get f := fun same => by
    rw [seedAt, seedDirection_eq_none.mpr same] at seeded
    cases seeded
  rcases seedDirection_toRemote seeded with emptyR | ⟨held, fill⟩
  · refine ⟨?_, .inl emptyR⟩
    cases emptyL : (loc.get f).isEmpty
    · rfl
    · exact absurd (Snapshot.get_eq_of_isEmpty emptyL emptyR) differ
  · exact ⟨held, .inr fill⟩

/-- A seed change carries the remote value toward the local side and the local value toward the
tracker. -/
theorem SeedField.change?_value {sf : SeedField} {c : FieldChange} (made : sf.change? = some c) :
    (c.direction = .toLocal → c.value = sf.remoteValue) ∧
      (c.direction = .toRemote → c.value = sf.localValue) := by
  obtain ⟨d, -, rfl⟩ := Option.map_eq_some_iff.mp made
  cases d <;> simp

/-- A comparison with a base gives, in field order, the table's verdict on each field, its one-sided
fields as changes and its conflicting fields as conflicts, and stands as these say. -/
theorem comparison_follows_table (policy : SeedPolicy) (b loc rem : Snapshot) :
    (∃ verdicts, detect policy (some b) loc rem = .classified verdicts ∧
      verdicts.map (·.field) = Field.all ∧
      ∀ v ∈ verdicts, v.verdict.Fits (b.get v.field) (loc.get v.field) (rem.get v.field)) ∧
    (detect policy (some b) loc rem).changes = Field.all.filterMap (tableChange b loc rem) ∧
    (detect policy (some b) loc rem).conflicts = Field.all.filterMap (tableConflict b loc rem) ∧
    (∀ d : Detection, d.standing =
      if d.conflicts = [] then (if d.changes = [] then .clean else .oneSided) else .conflicted) ∧
    ∀ fields : List SeedField, (Detection.seed fields).conflicts = [] ∧
      ((Detection.seed fields).standing = .oneSided ↔ (Detection.seed fields).changes ≠ []) := by
  refine ⟨⟨_, detect_some policy b loc rem, ?_, ?_⟩, changes_classified policy b loc rem,
    conflicts_classified policy b loc rem, Detection.standing_eq, fun fields => ⟨rfl, ?_⟩⟩
  · rw [List.map_map]
    exact List.map_id _
  · intro v listed
    obtain ⟨f, -, rfl⟩ := List.mem_map.mp listed
    exact fits_classify _ _ _
  · rw [Detection.standing_eq]
    by_cases quiet : (Detection.seed fields).changes = [] <;> simp [quiet, Detection.conflicts]

/-- A seed gives one decision per field: a field moves exactly when its values differ, only with the
value of its side, and only over an empty value or under the policy that favours that side. -/
theorem seed_loses_no_information (policy : SeedPolicy) (loc rem : Snapshot) :
    ∃ fields, detect policy none loc rem = .seed fields ∧ fields.map (·.field) = Field.all ∧
      (∀ sf ∈ fields, sf.localValue = loc.get sf.field ∧ sf.remoteValue = rem.get sf.field ∧
        (sf.direction = none ↔ sf.localValue = sf.remoteValue) ∧
        (sf.direction = some .toLocal → sf.remoteValue.isEmpty = false ∧
          (sf.localValue.isEmpty = true ∨ policy = .preferRemote)) ∧
        (sf.direction = some .toRemote → sf.localValue.isEmpty = false ∧
          (sf.remoteValue.isEmpty = true ∨ policy = .fillEmptyLocal))) ∧
      ∀ c ∈ (Detection.seed fields).changes,
        (c.direction = .toLocal → c.value = rem.get c.field) ∧
          (c.direction = .toRemote → c.value = loc.get c.field) := by
  refine ⟨_, detect_none policy loc rem, ?_, ?_, ?_⟩
  · rw [List.map_map]
    exact List.map_id _
  · intro sf listed
    obtain ⟨f, -, rfl⟩ := List.mem_map.mp listed
    exact ⟨rfl, rfl, seedDirection_eq_none, seedAt_toLocal, seedAt_toRemote⟩
  · intro c made
    obtain ⟨sf, listed, made⟩ := List.mem_filterMap.mp made
    obtain ⟨f, -, rfl⟩ := List.mem_map.mp listed
    have field : c.field = f := SeedField.change?_field _ c made
    rw [field]
    exact SeedField.change?_value made

example :
    (detect .fillEmptyLocal none { id := "1", title := some "Local title" }
      { id := "1", title := some "Remote title", assignee := some "ana" }).changes =
      [⟨.title, .toRemote, .text (some "Local title")⟩, ⟨.assignee, .toLocal, .text (some "ana")⟩] := by
  decide

end TrackerSync
