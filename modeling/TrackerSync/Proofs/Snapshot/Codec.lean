import TrackerSync.Snapshot.Codec
import TrackerSync.Proofs.Json.Records
import TrackerSync.Proofs.Time.Reading

/-!
Snapshots read back from their text, nested in another record too.
-/

namespace TrackerSync

namespace Snapshot

def TimesValid (s : Snapshot) : Prop := ∀ t, s.updatedAt = some t → t.Valid

theorem readsAs_timestamp {t : Time.Instant} (valid : t.Valid) :
    Json.ReadsAs 1 0 timestampShape (.str t.text) (.str t.text) :=
  Json.readsAs_checked (by simp only [Time.relaxed_text valid])

theorem readsAs_instantJson {s : Snapshot} (timed : s.TimesValid) :
    Json.ReadsAs 2 0 (.optional timestampShape) (instantJson s.updatedAt) (instantJson s.updatedAt) := by
  cases stamp : s.updatedAt with
  | none => exact (Json.readsAs_null _).mono (by decide) (Nat.le_refl 0)
  | some t =>
    exact Json.readsAs_optional (readsAs_timestamp (timed t stamp)) ⟨_, Json.toList_quote t.text⟩

/-- The snapshot shape reads a snapshot's text, given a step for each label and eleven more and
four levels, as a value that gives the snapshot back. -/
theorem readsAs_toJson (s : Snapshot) (timed : s.TimesValid) :
    ∃ j, Json.ReadsAs (s.labels.length + 11) 4 shape s.toJson j ∧ ofChecked j = s := by
  let members : List (String × Json) := [("id", .str s.id), ("title", Json.ofOption s.title),
    ("status", Json.ofOption s.status), ("assignee", Json.ofOption s.assignee),
    ("milestone", Json.ofOption s.milestone), ("description", Json.ofOption s.description),
    ("labels", Json.ofStrings s.labels), ("updated_at", instantJson s.updatedAt)]
  -- every field reads within the steps and levels the labels need
  have optional (x : Option String) :
      Json.ReadsAs (s.labels.length + 2) 2 (.optional .text) (Json.ofOption x) (Json.ofOption x) :=
    (Json.readsAs_ofOption x).mono (by omega) (by decide)
  have fits : Json.ReadsFields (s.labels.length + 1) 2
      [("id", .text, .required), ("title", .optional .text, .fallback .null),
        ("status", .optional .text, .fallback .null), ("assignee", .optional .text, .fallback .null),
        ("milestone", .optional .text, .fallback .null),
        ("description", .optional .text, .fallback .null), ("labels", .list .text, .fallback (.arr [])),
        ("updated_at", .optional timestampShape, .fallback .null)]
      (members.map fun m => (m.1, m.2, m.2)) := by
    refine ⟨?_, by simp [members], by simp [members]⟩
    · intro m mem
      simp only [members, List.map_cons, List.map_nil, List.mem_cons, List.not_mem_nil,
        or_false] at mem
      rcases mem with rfl | rfl | rfl | rfl | rfl | rfl | rfl | rfl
      · exact ⟨_, rfl, (Json.ReadsAs.of_readsBack (Json.readsBack_text s.id)).mono (by omega)
          (by decide)⟩
      · exact ⟨_, rfl, optional s.title⟩
      · exact ⟨_, rfl, optional s.status⟩
      · exact ⟨_, rfl, optional s.assignee⟩
      · exact ⟨_, rfl, optional s.milestone⟩
      · exact ⟨_, rfl, optional s.description⟩
      · exact ⟨_, rfl, Json.readsAs_strings s.labels⟩
      · exact ⟨_, rfl, (readsAs_instantJson timed).mono (by omega) (by decide)⟩
  have written : (members.map fun m => (m.1, m.2, m.2)).map (fun m => (m.1, m.2.1)) = members := by
    simp [Function.comp_def]
  have read : (members.map fun m => (m.1, m.2, m.2)).map (fun m => (m.1, m.2.2)) = members := by
    simp [Function.comp_def]
  have reads := Json.readsAs_record "NormalizedSnapshot" _ fits (by simp [members])
  have steps : (members.map fun m => (m.1, m.2, m.2)).length + (s.labels.length + 1) + 2 =
      s.labels.length + 11 := by
    simp only [members, List.length_map, List.length_cons, List.length_nil]
    omega
  rw [written, read, steps] at reads
  refine ⟨Json.mkObj members.reverse, reads, ?_⟩
  cases stamp : s.updatedAt with
  | none =>
    simp [ofChecked, members, Json.mkObj, Json.getStr?_eq_bind, Json.get?, Obj.get?_ofList, stamp,
      instantJson]
    rw [← stamp]
  | some t =>
    simp [ofChecked, members, Json.mkObj, Json.getStr?_eq_bind, Json.get?, Obj.get?_ofList, stamp,
      instantJson, Time.relaxed_text (timed t stamp), Except.toOption]
    rw [← stamp]

theorem length_labels_le (s : Snapshot) :
    s.labels.length ≤ (Json.compact s.toJson).toList.length := by
  have labels := Json.length_le_compact_strings s.labels
  show _ ≤ (Json.compact (.obj [("id", .str s.id), ("title", Json.ofOption s.title),
    ("status", Json.ofOption s.status), ("assignee", Json.ofOption s.assignee),
    ("milestone", Json.ofOption s.milestone), ("description", Json.ofOption s.description),
    ("labels", Json.ofStrings s.labels), ("updated_at", instantJson s.updatedAt)])).toList.length
  rw [Json.toList_compact_obj]
  simp only [List.flatMap_cons, List.flatMap_nil, Json.memberChars, List.length_cons,
    List.length_append]
  omega

/-- A snapshot whose update time the calendar holds decodes from its compact text to itself. -/
theorem decode_compact (s : Snapshot) (timed : s.TimesValid) :
    decode (Json.compact s.toJson) = .ok s := by
  obtain ⟨j, reads, back⟩ := readsAs_toJson s timed
  have := length_labels_le s
  rw [decode, Json.Shape.decode_readsAs reads (by omega) (by decide)]
  simp only [Except.map, back]

end Snapshot

end TrackerSync
