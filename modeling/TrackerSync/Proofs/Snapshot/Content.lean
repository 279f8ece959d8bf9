import TrackerSync.Snapshot.Fingerprint
import TrackerSync.Proofs.Json.Reading
import TrackerSync.Proofs.Snapshot.Writes

/-!
The fingerprinted content of a snapshot: one content text means the same comparable values.
-/

namespace TrackerSync

namespace FieldValue

def opening : FieldValue → Char
  | .text none => 'n'
  | .text (some _) => '"'
  | .list _ => '['

theorem toList_compact (v : FieldValue) :
    ∃ tail, (Json.compact v.toJson).toList = v.opening :: tail := by
  cases v with
  | text t =>
    cases t with
    | none => exact ⟨_, rfl⟩
    | some s => exact ⟨_, Json.toList_quote s⟩
  | list items => exact ⟨_, String.toList_append.trans (by rw [String.toList_append]; rfl)⟩

theorem compact_append_inj {v w : FieldValue} {r r' : List Char}
    (h : (Json.compact v.toJson).toList ++ r = (Json.compact w.toJson).toList ++ r') :
    v = w ∧ r = r' := by
  have opens : v.opening = w.opening := by
    obtain ⟨tv, hv⟩ := toList_compact v
    obtain ⟨tw, hw⟩ := toList_compact w
    rw [hv, hw] at h
    exact (List.cons.inj h).1
  cases v with
  | text t =>
    cases w with
    | text u =>
      cases t with
      | none =>
        cases u with
        | none => exact ⟨rfl, List.append_cancel_left h⟩
        | some _ => cases opens
      | some a =>
        cases u with
        | none => cases opens
        | some b =>
          obtain ⟨same, rest⟩ := Json.quote_append_inj h
          exact ⟨same ▸ rfl, rest⟩
    | list _ => cases t <;> cases opens
  | list xs =>
    cases w with
    | text u => cases u <;> cases opens
    | list ys =>
      have h : (Json.compact.items_ (xs.map .str)).toList ++ ']' :: r =
          (Json.compact.items_ (ys.map .str)).toList ++ ']' :: r' := by
        simpa [toJson, Json.ofStrings, Json.compact, String.toList_append] using h
      obtain ⟨same, rest⟩ := Json.strings_append_inj h
      exact ⟨same ▸ rfl, rest⟩

end FieldValue

namespace Snapshot

def contentLine (s : Snapshot) (f : Field) : List Char :=
  (f.name ++ "=").toList ++ (Json.compact (s.get f).toJson).toList ++ ['\n']

theorem toList_contentText (s : Snapshot) :
    s.contentText.toList = Field.all.flatMap s.contentLine := by
  rw [contentText, String.toList_join, List.flatMap_map]
  congr 1
  funext f
  simp only [contentLine, String.toList_append]
  rfl

theorem get_eq_of_contentLines_eq {s t : Snapshot} :
    ∀ {fields : List Field}, fields.flatMap s.contentLine = fields.flatMap t.contentLine →
      ∀ f ∈ fields, s.get f = t.get f
  | [], _, _, absent => absurd absent List.not_mem_nil
  | g :: rest, h, f, mem => by
    have line : (Json.compact (s.get g).toJson).toList ++ '\n' :: rest.flatMap s.contentLine =
        (Json.compact (t.get g).toJson).toList ++ '\n' :: rest.flatMap t.contentLine := by
      simp only [List.flatMap_cons, contentLine, List.append_assoc] at h
      simpa using h
    obtain ⟨same, later⟩ := FieldValue.compact_append_inj line
    rcases List.mem_cons.mp mem with here | there
    · exact here ▸ same
    · exact get_eq_of_contentLines_eq (List.cons.inj later).2 f there

theorem get_eq_of_contentText_eq {s t : Snapshot} (h : s.contentText = t.contentText)
    (f : Field) : s.get f = t.get f := by
  have lines := congrArg String.toList h
  rw [toList_contentText, toList_contentText] at lines
  exact get_eq_of_contentLines_eq lines f (Field.mem_all f)

theorem contentText_eq_of_get_eq {s t : Snapshot} (h : ∀ f, s.get f = t.get f) :
    s.contentText = t.contentText := by
  simp only [contentText, h]

theorem fingerprint_eq_of_get_eq {s t : Snapshot} (h : ∀ f, s.get f = t.get f) :
    s.fingerprint = t.fingerprint :=
  congrArg Hash.sha256 (contentText_eq_of_get_eq h)

def HashesApart (s t : Snapshot) : Prop :=
  Hash.sha256 s.contentText = Hash.sha256 t.contentText → s.contentText = t.contentText

theorem get_eq_of_fingerprint_eq {s t : Snapshot} (apart : s.HashesApart t)
    (same : s.fingerprint = t.fingerprint) (f : Field) : s.get f = t.get f :=
  get_eq_of_contentText_eq (apart same) f

/-- Where the hash does not collide on the two content texts, two snapshots have one fingerprint
exactly when every comparable field reads the same. So the fingerprint ignores the id, the update
time and whether a text is missing or empty, and it tells apart labels stored in another order. -/
theorem fingerprint_identifies_comparable_content (s t : Snapshot) (apart : s.HashesApart t) :
    (s.fingerprint = t.fingerprint ↔ ∀ f ∈ Field.all, s.get f = t.get f) ∧
    (∀ (i : String) (u : Option Time.Instant),
      { s with id := i, updatedAt := u }.fingerprint = s.fingerprint) ∧
    { s with
        title := nonEmpty s.title, status := nonEmpty s.status, assignee := nonEmpty s.assignee,
        milestone := nonEmpty s.milestone, description := nonEmpty s.description }.fingerprint =
      s.fingerprint ∧
    (t = { s with labels := t.labels } → t.labels ≠ s.labels →
      s.fingerprint ≠ t.fingerprint) := by
  refine ⟨⟨fun same f _ => get_eq_of_fingerprint_eq apart same f,
      fun agree => fingerprint_eq_of_get_eq fun f => agree f (Field.mem_all f)⟩,
    fun _ _ => fingerprint_eq_of_get_eq fun f => by cases f <;> rfl,
    fingerprint_eq_of_get_eq fun f => by cases f <;> simp [get, nonEmpty_nonEmpty], ?_⟩
  intro onlyLabels differ same
  have labels := get_eq_of_fingerprint_eq apart same .labels
  rw [onlyLabels] at labels
  simp only [get, FieldValue.list.injEq] at labels
  exact differ labels.symm

def fixLabelled (label : String) : Snapshot := { id := "1", title := some "Fix", labels := [label] }

theorem fingerprint_identifies_comparable_content_across_labels :
    (fixLabelled "bug").HashesApart (fixLabelled "ui") ∧
      (((fixLabelled "bug").fingerprint = (fixLabelled "ui").fingerprint ↔
          ∀ f ∈ Field.all, (fixLabelled "bug").get f = (fixLabelled "ui").get f) ∧
        (∀ (i : String) (u : Option Time.Instant),
          { fixLabelled "bug" with id := i, updatedAt := u }.fingerprint =
            (fixLabelled "bug").fingerprint) ∧
        { fixLabelled "bug" with
            title := nonEmpty (fixLabelled "bug").title, status := nonEmpty (fixLabelled "bug").status,
            assignee := nonEmpty (fixLabelled "bug").assignee,
            milestone := nonEmpty (fixLabelled "bug").milestone,
            description := nonEmpty (fixLabelled "bug").description }.fingerprint =
          (fixLabelled "bug").fingerprint ∧
        (fixLabelled "ui" = { fixLabelled "bug" with labels := (fixLabelled "ui").labels } →
          (fixLabelled "ui").labels ≠ (fixLabelled "bug").labels →
          (fixLabelled "bug").fingerprint ≠ (fixLabelled "ui").fingerprint)) := by
  -- the two digests, computed, differ, so the hash does not collide on these contents
  have apart : (fixLabelled "bug").HashesApart (fixLabelled "ui") := fun collide =>
    absurd collide (by decide +kernel)
  exact ⟨apart, fingerprint_identifies_comparable_content _ _ apart⟩

end Snapshot

end TrackerSync
