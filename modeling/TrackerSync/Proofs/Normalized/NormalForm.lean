import TrackerSync.Normalized.Record
import TrackerSync.Proofs.Snapshot.Writes
import TrackerSync.Proofs.Text.Case

/-!
Every normalizer gives a canonical snapshot, and the local and payload roads agree on every
comparable field.
-/

namespace TrackerSync

theorem nonEmpty_ne_empty (x : Option String) : nonEmpty x ≠ some "" := by
  cases x with
  | none => simp [nonEmpty]
  | some t => by_cases empty : t.isEmpty <;> simp_all [nonEmpty]

theorem nonEmpty_of_ne_empty {x : Option String} (kept : x ≠ some "") : nonEmpty x = x := by
  cases x with
  | none => rfl
  | some t =>
    have present : t.isEmpty = false := by simpa [String.isEmpty_iff] using kept
    simp [nonEmpty, present]

theorem nonEmpty_eq_some {x : Option String} {t : String} (kept : nonEmpty x = some t) :
    x = some t ∧ t ≠ "" := by
  cases x with
  | none => cases kept
  | some u =>
    by_cases empty : u.isEmpty = true
    · rw [nonEmpty, if_pos empty] at kept
      cases kept
    · rw [nonEmpty, if_neg empty] at kept
      cases kept
      exact ⟨rfl, fun same => empty (by rw [same]; rfl)⟩

namespace Snapshot

/-- A snapshot in the form every normalizer gives: no text field holds the empty string, and the
labels are canonical. -/
structure Canonical (s : Snapshot) : Prop where
  title : s.title ≠ some ""
  status : s.status ≠ some ""
  assignee : s.assignee ≠ some ""
  milestone : s.milestone ≠ some ""
  description : s.description ≠ some ""
  labels : LabelsCanonical s.labels

def StatusCanonical (s : Snapshot) : Prop := ∀ t, s.status = some t → Status.canonical t = t

theorem canonicalize_canonical (s : Snapshot) : s.canonicalize.Canonical :=
  ⟨nonEmpty_ne_empty _, nonEmpty_ne_empty _, nonEmpty_ne_empty _, nonEmpty_ne_empty _,
    nonEmpty_ne_empty _, canonicalLabels_canonical _⟩

theorem Canonical.canonicalize_eq {s : Snapshot} (canonical : s.Canonical) : s.canonicalize = s := by
  rw [canonicalize, nonEmpty_of_ne_empty canonical.title, nonEmpty_of_ne_empty canonical.status,
    nonEmpty_of_ne_empty canonical.assignee, nonEmpty_of_ne_empty canonical.milestone,
    nonEmpty_of_ne_empty canonical.description, canonicalLabels_eq_self canonical.labels]

/-- A status the vocabulary has already put in canonical form stays so through
`canonicalize`. -/
theorem statusCanonical_canonicalize {s : Snapshot}
    (resolved : ∀ t, s.status = some t → Status.canonical t = t) : s.canonicalize.StatusCanonical := by
  intro t kept
  exact resolved t (nonEmpty_eq_some kept).1

end Snapshot

namespace Status

/-- A blank status has no canonical form: it trims to the empty text, which no status names. -/
theorem canonical_of_blank {s : String} (blank : Text.isBlankText s = true) : canonical s = "" := by
  have front : s.toList.dropWhile Text.isBlank = [] :=
    List.dropWhile_eq_nil_iff.mpr (List.all_eq_true.mp blank)
  have trimmed : Text.trim s = "" := by
    rw [Text.trim, front]
    rfl
  unfold canonical key
  rw [trimmed]
  rfl

end Status

theorem statusWithEvents_fst (raw : String) : (statusWithEvents raw).1 = Status.canonical raw := by
  -- both branches give the canonical form; only the events differ
  rw [statusWithEvents]
  split <;> simp only

/-! ### Ids -/

theorem Decimal.positional_ne_empty (ds : String) (s : Int) : Decimal.positional ds s ≠ "" := by
  unfold Decimal.positional
  dsimp only
  split
  · simp [String.append_eq_empty_iff]
  · split <;> simp [String.append_eq_empty_iff]

theorem Decimal.scientific_ne_empty (ds : String) (s : Int) : Decimal.scientific ds s ≠ "" := by
  unfold Decimal.scientific
  simp [String.append_eq_empty_iff]

theorem Decimal.layout_ne_empty (ds : String) (s : Int) : Decimal.layout ds s ≠ "" := by
  unfold Decimal.layout
  dsimp only
  split
  · exact Decimal.positional_ne_empty ds s
  · exact Decimal.scientific_ne_empty ds s

theorem Decimal.textBy_ne_empty {lay : String → Int → String} (written : ∀ ds s, lay ds s ≠ "")
    (bits : UInt64) : Decimal.textBy lay bits ≠ "" := by
  unfold Decimal.textBy
  dsimp only
  split
  · simp [String.append_eq_empty_iff]
  · split <;> exact fun empty => written _ _ (String.append_eq_empty_iff.mp empty).2

theorem Number.text_ne_empty (n : Number) : n.text ≠ "" := by
  cases n with
  | nat n => simp [Number.text, Nat.repr, Nat.toDigits_ne_nil]
  | neg n => simp [Number.text, String.append_eq_empty_iff]
  | float f =>
    simp only [Number.text]
    split
    · exact Decimal.textBy_ne_empty Decimal.layout_ne_empty _
    · simp

theorem idText?_ne_empty {j : Option Json} {id : String} (read : idText? j = some id) : id ≠ "" := by
  unfold idText? at read
  split at read
  · split at read
    · cases read
    · next s present =>
      cases read
      simpa [String.isEmpty_iff] using present
  · cases read
    exact Number.text_ne_empty _
  · cases read

theorem memberId?_ne_empty {m : List (String × Json)} {id : String} (read : memberId? m = some id) :
    id ≠ "" := by
  unfold memberId? at read
  split at read
  · next found =>
    cases read
    exact idText?_ne_empty found
  · exact idText?_ne_empty read

/-! ### Records from the tracker -/

theorem normalize_mapping (m : List (String × Json)) :
    (RawRecord.mapping m).normalize.1 = (normalizeMapping m).1 := by
  simp only [RawRecord.normalize]
  split <;> simp only

theorem normalize_payload_obj (m : List (String × Json)) :
    (RawRecord.payload (.obj m)).normalize.1 = (projectPayload m).1 := by
  simp only [RawRecord.normalize]
  split <;> simp only

theorem payload_obj {item : Json} {s : Snapshot}
    (read : (RawRecord.payload item).normalize.1 = .present s) : ∃ m, item = .obj m := by
  cases item with
  | obj m => exact ⟨m, rfl⟩
  | _ => simp [RawRecord.normalize] at read

/-- A projected payload is the canonical form of its reading, with its id and a status through
the vocabulary. -/
theorem projectPayload_present {m : List (String × Json)} {s : Snapshot}
    (read : (projectPayload m).1 = .present s) :
    ∃ t : Snapshot, s = t.canonicalize ∧ s.id ≠ "" ∧ ∀ x, t.status = some x → Status.canonical x = x := by
  unfold projectPayload at read
  split at read
  · cases read
  · next id named =>
    cases read
    refine ⟨_, rfl, memberId?_ne_empty named, fun x read => ?_⟩
    -- the status is read from `status`, else from `state`, and put in canonical form
    split at read
    · simp only [Option.some.injEq] at read
      rw [← read, statusWithEvents_fst, Status.canonical_canonical]
    · split at read
      · simp only [Option.some.injEq] at read
        rw [← read, statusWithEvents_fst, Status.canonical_canonical]
      · simp at read

/-- A decoded mapping is the canonical form of what it decodes to, and has an id. -/
theorem normalizeMapping_present {m : List (String × Json)} {s : Snapshot}
    (read : (normalizeMapping m).1 = .present s) : ∃ t : Snapshot, s = t.canonicalize ∧ s.id ≠ "" := by
  unfold normalizeMapping at read
  split at read
  · cases read
  · split at read
    · cases read
    · next decoded _ =>
      split at read
      · cases read
      · next named =>
        cases read
        refine ⟨_, rfl, ?_⟩
        show decoded.id ≠ ""
        simpa [String.isEmpty_iff] using named

theorem RawRecord.normalize_canonical {r : RawRecord} {s : Snapshot}
    (read : r.normalize.1 = .present s) : s.Canonical ∧ s.id ≠ "" := by
  cases r with
  | mapping m =>
    rw [normalize_mapping] at read
    obtain ⟨t, rfl, named⟩ := normalizeMapping_present read
    exact ⟨t.canonicalize_canonical, named⟩
  | payload item =>
    obtain ⟨m, rfl⟩ := payload_obj read
    rw [normalize_payload_obj] at read
    obtain ⟨t, rfl, named, -⟩ := projectPayload_present read
    exact ⟨t.canonicalize_canonical, named⟩

theorem payload_statusCanonical {item : Json} {s : Snapshot}
    (read : (RawRecord.payload item).normalize.1 = .present s) : s.StatusCanonical := by
  obtain ⟨m, rfl⟩ := payload_obj read
  rw [normalize_payload_obj] at read
  obtain ⟨t, rfl, -, resolved⟩ := projectPayload_present read
  exact Snapshot.statusCanonical_canonicalize resolved

/-! ### Local items -/

namespace Entity

/-- The snapshot of a local item before `canonicalize`: its fields as they are, its status through
the vocabulary unless it is blank. -/
def reading (e : Entity) : Snapshot :=
  { id := e.id, title := some e.title,
    status := if Text.isBlankText e.status then none else some (Status.canonical e.status),
    assignee := e.assignee, milestone := e.milestone, description := e.description,
    labels := e.labels,
    updatedAt := (extractTimestamp (RawTime.ofEntity e "updated_at") "updated_at").1.toOption }

theorem normalize_fst (e : Entity) : e.normalize.1 = e.reading.canonicalize := by
  unfold normalize reading
  cases blank : Text.isBlankText e.status <;> simp [statusWithEvents_fst]

theorem normalize_get_status (e : Entity) :
    e.normalize.1.get .status = .text (nonEmpty (if Text.isBlankText e.status then none
      else some (Status.canonical e.status))) := by
  rw [normalize_fst]
  simp [reading, Snapshot.canonicalize, Snapshot.get, nonEmpty_nonEmpty]

theorem reading_status {e : Entity} {x : String} (read : e.reading.status = some x) :
    Status.canonical x = x := by
  by_cases blank : Text.isBlankText e.status = true
  · simp [reading, blank] at read
  · simp only [reading, blank, Bool.false_eq_true, if_false, Option.some.injEq] at read
    rw [← read, Status.canonical_canonical]

theorem normalize_canonical (e : Entity) : e.normalize.1.Canonical ∧ e.normalize.1.StatusCanonical := by
  rw [normalize_fst]
  exact ⟨e.reading.canonicalize_canonical,
    Snapshot.statusCanonical_canonicalize fun _ => reading_status⟩

end Entity

/-- Every normalizer gives a canonical snapshot, which `canonicalize` leaves as it is. A record
from the tracker yields one only with an id, and a payload or a local item gives a status in its
own canonical form. -/
theorem normalizers_give_canonical_snapshots :
    (∀ (r : RawRecord) (s : Snapshot), r.normalize.1 = .present s →
      s.Canonical ∧ s.canonicalize = s ∧ s.id ≠ "") ∧
    (∀ (item : Json) (s : Snapshot), (RawRecord.payload item).normalize.1 = .present s →
      s.StatusCanonical) ∧
    ∀ e : Entity, e.normalize.1.Canonical ∧ e.normalize.1.canonicalize = e.normalize.1 ∧
      e.normalize.1.StatusCanonical := by
  refine ⟨fun r s read => ?_, fun _ _ read => payload_statusCanonical read, fun e => ?_⟩
  · obtain ⟨canonical, named⟩ := RawRecord.normalize_canonical read
    exact ⟨canonical, canonical.canonicalize_eq, named⟩
  · obtain ⟨canonical, resolved⟩ := e.normalize_canonical
    exact ⟨canonical, canonical.canonicalize_eq, resolved⟩

/-! ### The two roads agree -/

theorem stringAt_ofOption {m : List (String × Json)} {k : String} (x : Option String)
    (found : Obj.get? m k = some (Json.ofOption x)) : stringAt m k = x := by
  cases x <;> simp [stringAt, found, Json.ofOption, Json.asStr?]

theorem personAt_ofOption {m : List (String × Json)} {k : String} (x : Option String)
    (found : Obj.get? m k = some (Json.ofOption x)) : personAt m k = x := by
  cases x <;> simp [personAt, found, Json.ofOption]

theorem namedAt_ofOption {m : List (String × Json)} {k nameKey : String} (x : Option String)
    (found : Obj.get? m k = some (Json.ofOption x)) : namedAt m k nameKey = x := by
  cases x <;> simp [namedAt, found, Json.ofOption]

theorem labelsAt_ofStrings {m : List (String × Json)} (xs : List String)
    (found : Obj.get? m "labels" = some (Json.ofStrings xs)) : labelsAt m = canonicalLabels xs := by
  simp [labelsAt, found, Json.ofStrings, List.filterMap_map]

namespace Entity

/-- The members of the payload a tracker sends for a local item's comparable fields: its id,
title and status as strings, a missing assignee, milestone or description as `null`, and its
labels as strings. -/
def payloadMembers (e : Entity) : List (String × Json) :=
  [("id", .str e.id), ("title", .str e.title), ("status", .str e.status),
    ("assignee", Json.ofOption e.assignee), ("milestone", Json.ofOption e.milestone),
    ("description", Json.ofOption e.description), ("labels", Json.ofStrings e.labels)]

theorem firstText_payloadMembers (e : Entity) :
    firstText e.payloadMembers ["headline", "description", "body"] = nonEmpty e.description := by
  cases described : e.description <;>
    simp [firstText, stringAt, Obj.get?, payloadMembers, described, Json.ofOption, Json.asStr?,
      nonEmpty]

/-- A local item's payload projects onto the item's own fields, with its status through the
vocabulary even when blank, an empty description skipped and its labels canonical. -/
theorem projectPayload_payloadMembers (e : Entity) (named : e.id ≠ "") :
    ∃ time, (projectPayload e.payloadMembers).1 = .present
      ({ id := e.id, title := some e.title, status := some (Status.canonical e.status),
         assignee := e.assignee, milestone := e.milestone, description := nonEmpty e.description,
         labels := canonicalLabels e.labels, updatedAt := time } : Snapshot).canonicalize := by
  have emptyId : e.id.isEmpty = false := by simpa [String.isEmpty_iff] using named
  have id : memberId? e.payloadMembers = some e.id := by
    simp [memberId?, idText?, Obj.get?, payloadMembers, emptyId]
  have status : stringAt e.payloadMembers "status" = some e.status :=
    stringAt_ofOption (some e.status) (by simp [Obj.get?, payloadMembers, Json.ofOption])
  have title : stringAt e.payloadMembers "title" = some e.title :=
    stringAt_ofOption (some e.title) (by simp [Obj.get?, payloadMembers, Json.ofOption])
  rw [projectPayload, id, status, title,
    personAt_ofOption e.assignee (by simp [Obj.get?, payloadMembers]),
    namedAt_ofOption e.milestone (by simp [Obj.get?, payloadMembers]),
    firstText_payloadMembers, labelsAt_ofStrings e.labels (by simp [Obj.get?, payloadMembers])]
  dsimp only
  rw [statusWithEvents_fst]
  exact ⟨_, rfl⟩

end Entity

theorem Snapshot.get_canonicalize (s : Snapshot) (f : Field) :
    s.canonicalize.get f = f.readBack (s.get f) := by
  cases f <;> simp [Snapshot.canonicalize, Snapshot.get, Field.readBack, Snapshot.textOf,
    Snapshot.labelsOf, nonEmpty_nonEmpty]

/-- The tracker's reading of a local item's payload agrees with the local reading of the item on
every comparable field. -/
theorem payload_reads_as_local_item (e : Entity) (named : e.id ≠ "") :
    ∃ s, (RawRecord.payload (.obj e.payloadMembers)).normalize.1 = .present s ∧
      ∀ f, s.get f = e.normalize.1.get f := by
  obtain ⟨time, projected⟩ := e.projectPayload_payloadMembers named
  refine ⟨_, (normalize_payload_obj _).trans projected, fun f => ?_⟩
  rw [Entity.normalize_fst, Snapshot.get_canonicalize, Snapshot.get_canonicalize]
  cases f with
  | status =>
    -- a blank status reads as missing on both roads: through the vocabulary it is the empty text
    by_cases blank : Text.isBlankText e.status = true
    · simp [Entity.reading, Snapshot.get, blank, Status.canonical_of_blank blank, nonEmpty]
    · simp [Entity.reading, Snapshot.get, blank]
  | description => simp [Entity.reading, Snapshot.get, nonEmpty_nonEmpty]
  | labels =>
    simp [Entity.reading, Snapshot.get, Field.readBack, Snapshot.labelsOf,
      canonicalLabels_eq_self (canonicalLabels_canonical _)]
  | title => rfl
  | assignee => rfl
  | milestone => rfl

/-- A closed issue with an empty assignee and its labels out of order reads alike on both
roads. -/
theorem payload_reads_as_local_item_for_closed_issue :
    ({ id := "L1", kind := .issue, title := "Same", status := "closed", assignee := some "",
        labels := ["b", "a"], updatedAt := 1 } : Entity).id ≠ "" ∧
      ∃ s, (RawRecord.payload (.obj
          ({ id := "L1", kind := .issue, title := "Same", status := "closed", assignee := some "",
             labels := ["b", "a"], updatedAt := 1 } : Entity).payloadMembers)).normalize.1 =
          .present s ∧
        ∀ f, s.get f =
          ({ id := "L1", kind := .issue, title := "Same", status := "closed", assignee := some "",
             labels := ["b", "a"], updatedAt := 1 } : Entity).normalize.1.get f :=
  ⟨by decide, payload_reads_as_local_item _ (by decide)⟩

end TrackerSync
