import TrackerSync.Proofs.Time.Reading
import TrackerSync.Proofs.Normalized.NormalForm
import TrackerSync.Proofs.Json.Records

/-!
Decoding a snapshot's own object gives the snapshot back when its update time has a four-digit
year; a later year is dropped with `timestamp_degraded`.
-/

namespace TrackerSync

namespace Json

theorem checkUpTo_text (fuel : Nat) (s : String) : Shape.checkUpTo (fuel + 1) .text (.str s) = .ok (.str s) :=
  rfl

theorem checkUpTo_optional_text (fuel : Nat) (x : Option String) :
    Shape.checkUpTo (fuel + 2) (.optional .text) (ofOption x) = .ok (ofOption x) := by
  cases x <;> rfl

theorem mapM_checkUpTo_text (fuel : Nat) (xs : List String) :
    (xs.map Json.str).mapM (Shape.checkUpTo (fuel + 1) .text) = .ok (xs.map Json.str) := by
  induction xs with
  | nil => rfl
  | cons x xs ih =>
    rw [List.map_cons, List.mapM_cons, checkUpTo_text, ih]
    rfl

theorem checkUpTo_strings (fuel : Nat) (xs : List String) :
    Shape.checkUpTo (fuel + 2) (.list .text) (ofStrings xs) = .ok (ofStrings xs) := by
  show ((xs.map Json.str).mapM (Shape.checkUpTo (fuel + 1) .text)).map Json.arr = _
  rw [mapM_checkUpTo_text]
  rfl

end Json

namespace Snapshot

theorem toJson_eq (s : Snapshot) :
    s.toJson = .obj [("id", .str s.id), ("title", Json.ofOption s.title),
      ("status", Json.ofOption s.status), ("assignee", Json.ofOption s.assignee),
      ("milestone", Json.ofOption s.milestone), ("description", Json.ofOption s.description),
      ("labels", Json.ofStrings s.labels), ("updated_at", instantJson s.updatedAt)] := rfl

theorem shape_depth : shape.depth = 2 := by decide

theorem ofJson_untimed (s : Snapshot) :
    ofJson (.obj [("id", .str s.id), ("title", Json.ofOption s.title),
      ("status", Json.ofOption s.status), ("assignee", Json.ofOption s.assignee),
      ("milestone", Json.ofOption s.milestone), ("description", Json.ofOption s.description),
      ("labels", Json.ofStrings s.labels)]) = .ok { s with updatedAt := none } := by
  obtain ⟨fuel, deep⟩ : ∃ fuel, (Json.obj [("id", .str s.id), ("title", Json.ofOption s.title),
      ("status", Json.ofOption s.status), ("assignee", Json.ofOption s.assignee),
      ("milestone", Json.ofOption s.milestone), ("description", Json.ofOption s.description),
      ("labels", Json.ofStrings s.labels)]).depth + shape.depth + 1 = fuel + 3 := ⟨_, by rw [shape_depth]⟩
  rw [ofJson, Json.Shape.check, deep]
  unfold shape
  rw [Json.Shape.checkUpTo]
  simp [Json.checkRecordMembers, Json.fieldShape, Json.checkUpTo_optional_text,
    Json.checkUpTo_strings, Json.checkUpTo_text, bind, Except.bind, Json.fillMissing, Obj.get?_ofList,
    Except.map, ofChecked, Json.mkObj, Json.getStr?_eq_bind, Json.get?]

end Snapshot

/-! The update time, read apart. -/

theorem zuluAsOffset_zulu (s : String) : zuluAsOffset (s ++ "Z") = s ++ "+00:00" := by
  have ends : (s ++ "Z").endsWith "Z" = true := by
    show (s ++ "Z").toSlice.endsWith "Z" = true
    rw [String.Slice.endsWith_string_iff, String.copy_toSlice, String.toList_append]
    exact List.suffix_append _ _
  have dropped : ((s ++ "Z").dropEnd 1).toString = s := by
    apply String.toList_inj.mp
    simp
  rw [zuluAsOffset, ends, Bool.true_or, if_pos rfl, dropped]

theorem Text.trim_eq_self {s : String} (front : s.toList.dropWhile Text.isBlank = s.toList)
    (back : s.toList.reverse.dropWhile Text.isBlank = s.toList.reverse) : Text.trim s = s := by
  rw [Text.trim, front, back, List.reverse_reverse, String.ofList_toList]

/-- The timestamp reader gives back every instant of the years 0 to 9999 that the calendar holds
from its text. -/
theorem parseTimestamp_text {t : Time.Instant} (valid : t.Valid) (low : 0 ≤ t.date.1)
    (high : t.date.1 ≤ 9999) : parseTimestamp t.text = some t := by
  have zulu : t.text = (t.dateTimeText "T" ++ Time.Instant.fractionText t.nanos) ++ "Z" := by
    rw [Time.Instant.text]
  have front : t.text.toList.dropWhile Text.isBlank = t.text.toList := by
    have chars : t.text.toList = (Time.Instant.padded 4 t.date.1.toNat).toList ++
        ('-' :: (Time.Instant.padded 2 t.date.2.1).toList ++ '-' :: ((Time.Instant.padded 2 t.date.2.2).toList ++
        'T' :: ((Time.Instant.padded 2 t.clock.1).toList ++ ':' :: ((Time.Instant.padded 2 t.clock.2.1).toList ++
        ':' :: ((Time.Instant.padded 2 t.clock.2.2).toList ++
        ((Time.Instant.fractionText t.nanos).toList ++ ['Z'])))))) := by
      rw [zulu, String.toList_append, String.toList_append, show "T" = String.singleton 'T' from rfl,
        List.append_assoc, Time.Instant.toList_dateTimeText_append, Time.Instant.yearText_of_four low high]
      simp
    rw [chars, Time.dropWhile_isBlank_padded]
  have back : t.text.toList.reverse.dropWhile Text.isBlank = t.text.toList.reverse := by
    rw [zulu, String.toList_append, List.reverse_append]
    exact List.dropWhile_cons_of_neg (by decide)
  unfold parseTimestamp
  rw [Text.trim_eq_self front back, zulu, zuluAsOffset_zulu]
  dsimp only
  rw [Time.rfc3339_text valid low high]

/-! The whole object. -/

theorem extractTimestamp_absent :
    extractTimestamp (RawTime.ofMember (some (instantJson none))) "updated_at" =
      (.absent ⟨.missing, "updated_at"⟩, []) := rfl

theorem extractTimestamp_text {t : Time.Instant} (valid : t.Valid) (low : 0 ≤ t.date.1)
    (high : t.date.1 ≤ 9999) :
    extractTimestamp (RawTime.ofMember (some (instantJson (some t)))) "updated_at" = (.present t, []) := by
  show extractTimestamp (.text t.text) "updated_at" = _
  unfold extractTimestamp
  dsimp only
  rw [parseTimestamp_text valid low high]

/-- A snapshot's object with an id decodes to the snapshot with its update time as the timestamp
reader reads it, canonicalized, with the reader's events. -/
theorem normalizeMapping_toJson {s : Snapshot} (named : s.id ≠ "") {members : List (String × Json)}
    (written : s.toJson = .obj members) :
    normalizeMapping members =
      let read := extractTimestamp (RawTime.ofMember (some (instantJson s.updatedAt))) "updated_at"
      (.present { s with updatedAt := read.1.toOption }.canonicalize, read.2) := by
  rw [Snapshot.toJson_eq] at written
  injection written with written
  subst written
  have erased : Obj.erase [("id", .str s.id), ("title", Json.ofOption s.title),
      ("status", Json.ofOption s.status), ("assignee", Json.ofOption s.assignee),
      ("milestone", Json.ofOption s.milestone), ("description", Json.ofOption s.description),
      ("labels", Json.ofStrings s.labels), ("updated_at", instantJson s.updatedAt)] "updated_at" =
      [("id", .str s.id), ("title", Json.ofOption s.title),
      ("status", Json.ofOption s.status), ("assignee", Json.ofOption s.assignee),
      ("milestone", Json.ofOption s.milestone), ("description", Json.ofOption s.description),
      ("labels", Json.ofStrings s.labels)] := by
    simp [Obj.erase]
  have unnamed : s.id.isEmpty = false := by
    simpa [String.isEmpty_iff] using named
  unfold normalizeMapping
  rw [erased, Snapshot.ofJson_untimed]
  simp [unnamed, Obj.get?]

/-- A canonical snapshot with an id whose update time, if any, falls in the years 0 to 9999
normalizes, from its own object read as a mapping, to itself with no event. -/
theorem snapshot_object_normalizes_to_itself {s : Snapshot} (canonical : s.Canonical)
    (named : s.id ≠ "") (timed : ∀ t, s.updatedAt = some t → t.Valid ∧ 0 ≤ t.date.1 ∧ t.date.1 ≤ 9999)
    {members : List (String × Json)} (written : s.toJson = .obj members) :
    (RawRecord.mapping members).normalize = (.present s, []) := by
  have decoded : normalizeMapping members = (.present s, []) := by
    rw [normalizeMapping_toJson named written]
    dsimp only
    cases stamp : s.updatedAt with
    | none =>
      have same : { s with updatedAt := none } = s := by rw [← stamp]
      rw [extractTimestamp_absent]
      simp only [Normalized.toOption, same, canonical.canonicalize_eq]
    | some t =>
      obtain ⟨valid, low, high⟩ := timed t stamp
      have same : { s with updatedAt := some t } = s := by rw [← stamp]
      rw [extractTimestamp_text valid low high]
      simp only [Normalized.toOption, same, canonical.canonicalize_eq]
  unfold RawRecord.normalize
  simp only [decoded]

theorem dated_issue_object_normalizes_to_itself :
    let s : Snapshot := { id := "7", title := some "A", updatedAt := some ⟨1700000000, 0⟩ }
    let members : List (String × Json) := [("id", .str "7"), ("title", .str "A"),
      ("status", .null), ("assignee", .null), ("milestone", .null), ("description", .null),
      ("labels", .arr []), ("updated_at", .str "2023-11-14T22:13:20Z")]
    (s.Canonical ∧ s.id ≠ "" ∧ (∀ t, s.updatedAt = some t → t.Valid ∧ 0 ≤ t.date.1 ∧ t.date.1 ≤ 9999) ∧
      s.toJson = .obj members) ∧
    (RawRecord.mapping members).normalize = (.present s, []) := by
  intro s members
  have canonical : s.Canonical :=
    ⟨by decide, by decide, by decide, by decide, by decide, ⟨by decide, by decide, by decide⟩⟩
  have timed : ∀ t, s.updatedAt = some t → t.Valid ∧ 0 ≤ t.date.1 ∧ t.date.1 ≤ 9999 := by
    rintro t ⟨⟩
    exact ⟨⟨by decide, by decide, fun leap => absurd leap (by decide)⟩, by decide, by decide⟩
  have stamp : Time.Instant.text ⟨1700000000, 0⟩ = "2023-11-14T22:13:20Z" := by decide
  have written : s.toJson = .obj members := by
    rw [Snapshot.toJson_eq]
    simp only [s, instantJson, stamp]
    rfl
  exact ⟨⟨canonical, by decide, timed, written⟩,
    snapshot_object_normalizes_to_itself canonical (by decide) timed written⟩

/-- The first instant of the year 10000 is one the calendar holds, but its text, signed and with
five digits of year, does not read back: a snapshot dated then comes back without its update time,
and the reading reports it. -/
theorem year_ten_thousand_object_loses_its_time :
    let s : Snapshot := { id := "7", title := some "A", updatedAt := some ⟨253402300800, 0⟩ }
    let members : List (String × Json) := [("id", .str "7"), ("title", .str "A"),
      ("status", .null), ("assignee", .null), ("milestone", .null), ("description", .null),
      ("labels", .arr []), ("updated_at", .str "+10000-01-01T00:00:00Z")]
    (s.Canonical ∧ Time.Instant.Valid ⟨253402300800, 0⟩ ∧ s.toJson = .obj members) ∧
    (RawRecord.mapping members).normalize =
      (.present { s with updatedAt := none },
        [.timestampDegraded "updated_at" "unparseable: +10000-01-01T00:00:00Z"]) := by
  intro s members
  have canonical : s.Canonical :=
    ⟨by decide, by decide, by decide, by decide, by decide, ⟨by decide, by decide, by decide⟩⟩
  have valid : Time.Instant.Valid ⟨253402300800, 0⟩ :=
    ⟨by decide, by decide, fun leap => absurd leap (by decide)⟩
  have stamp : Time.Instant.text ⟨253402300800, 0⟩ = "+10000-01-01T00:00:00Z" := by decide
  have written : s.toJson = .obj members := by
    rw [Snapshot.toJson_eq]
    simp only [s, instantJson, stamp]
    rfl
  have unread : parseTimestamp "+10000-01-01T00:00:00Z" = none := by decide +kernel
  refine ⟨⟨canonical, valid, written⟩, ?_⟩
  have read : extractTimestamp (RawTime.ofMember (some (instantJson s.updatedAt))) "updated_at" =
      (.absent ⟨.unparseable, "+10000-01-01T00:00:00Z"⟩,
        [.timestampDegraded "updated_at" "unparseable: +10000-01-01T00:00:00Z"]) := by
    show extractTimestamp (.text (Time.Instant.text ⟨253402300800, 0⟩)) "updated_at" = _
    rw [stamp]
    unfold extractTimestamp
    dsimp only
    rw [unread]
    rfl
  have decoded := @normalizeMapping_toJson s (by decide) _ written
  rw [read] at decoded
  dsimp only at decoded
  have undated : ({ s with updatedAt := none } : Snapshot).Canonical :=
    ⟨canonical.title, canonical.status, canonical.assignee, canonical.milestone,
      canonical.description, canonical.labels⟩
  unfold RawRecord.normalize
  simp only [decoded, Normalized.toOption, undated.canonicalize_eq]

end TrackerSync
