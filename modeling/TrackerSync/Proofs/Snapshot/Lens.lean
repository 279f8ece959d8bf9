import TrackerSync.Proofs.Snapshot.Labels
import TrackerSync.Proofs.Normalized.NormalForm

/-!
Reading and writing one field of a snapshot are a lens on normal-form values.
-/

namespace TrackerSync

namespace Field

/-- A value in the form a field reads back: a missing or non-empty text for a text field, a
canonical list for the labels. -/
inductive NormalValue : Field → FieldValue → Prop
  | missing {f : Field} (text : f ≠ .labels) : NormalValue f (.text none)
  | present {f : Field} {t : String} (text : f ≠ .labels) (nonempty : t ≠ "") :
      NormalValue f (.text (some t))
  | labels {xs : List String} (canonical : canonicalLabels xs = xs) : NormalValue .labels (.list xs)

theorem readBack_text_of_ne {f : Field} (text : f ≠ .labels) (x : Option String) :
    f.readBack (.text x) = .text (nonEmpty x) := by
  cases f <;> first | exact absurd rfl text | simp [readBack, Snapshot.textOf, nonEmpty_nonEmpty]

theorem readBack_of_normalValue {f : Field} {v : FieldValue} (normal : f.NormalValue v) :
    f.readBack v = v := by
  cases normal with
  | missing text => rw [readBack_text_of_ne text]; rfl
  | present text nonempty => rw [readBack_text_of_ne text, nonEmpty_of_ne_empty (by simpa)]
  | labels canonical => simp [readBack, Snapshot.labelsOf, canonical]

end Field

namespace Snapshot

def slot (s : Snapshot) : Field → FieldValue
  | .title => .text s.title
  | .status => .text s.status
  | .assignee => .text s.assignee
  | .milestone => .text s.milestone
  | .description => .text s.description
  | .labels => .list s.labels

@[simp] theorem set_id (s : Snapshot) (f : Field) (v : FieldValue) : (s.set f v).id = s.id := by
  cases f <;> rfl

@[simp] theorem set_updatedAt (s : Snapshot) (f : Field) (v : FieldValue) :
    (s.set f v).updatedAt = s.updatedAt := by
  cases f <;> rfl

theorem slot_set_of_ne (s : Snapshot) {f g : Field} (v : FieldValue) (other : g ≠ f) :
    (s.set f v).slot g = s.slot g := by
  cases f <;> cases g <;> first | exact absurd rfl other | rfl

theorem set_get_of_canonical {s : Snapshot} (canonical : s.Canonical) (f : Field) :
    s.set f (s.get f) = s := by
  cases f with
  | title => simp only [set, get, textOf, nonEmpty_of_ne_empty canonical.title]
  | status => simp only [set, get, textOf, nonEmpty_of_ne_empty canonical.status]
  | assignee => simp only [set, get, textOf, nonEmpty_of_ne_empty canonical.assignee]
  | milestone => simp only [set, get, textOf, nonEmpty_of_ne_empty canonical.milestone]
  | description => simp only [set, get, textOf, nonEmpty_of_ne_empty canonical.description]
  | labels => simp only [set, get, labelsOf, canonicalLabels_eq_self canonical.labels]

end Snapshot

/-- The lens laws of one field. A normal-form value written into a field reads back as itself; a
write keeps the id, the update time and every other field's slot; and writing back what a field
reads leaves a snapshot with no empty text and canonical labels as it is. -/
theorem snapshot_field_lens_laws :
    (∀ (s : Snapshot) (f : Field) (v : FieldValue), f.NormalValue v → (s.set f v).get f = v) ∧
    (∀ (s : Snapshot) (f : Field) (v : FieldValue), (s.set f v).id = s.id ∧
      (s.set f v).updatedAt = s.updatedAt ∧ ∀ g, g ≠ f → (s.set f v).slot g = s.slot g) ∧
    ∀ s : Snapshot, s.Canonical → ∀ f, s.set f (s.get f) = s := by
  refine ⟨fun s f v normal => ?_, fun s f v => ⟨s.set_id f v, s.set_updatedAt f v,
    fun g other => s.slot_set_of_ne v other⟩, fun _ canonical f => Snapshot.set_get_of_canonical canonical f⟩
  rw [Snapshot.get_set_self, Field.readBack_of_normalValue normal]

end TrackerSync
