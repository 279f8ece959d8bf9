import TrackerSync.Proofs.Snapshot.Lens
import TrackerSync.Proofs.Sync.Settle

/-!
A value pulled into a local item reads back exactly.
-/

namespace TrackerSync

/-- A normal-form value whose status, if it is one, is its own canonical status, is settled. -/
theorem Field.NormalValue.settled {f : Field} {v : FieldValue} (normal : f.NormalValue v)
    (stable : f = .status → ∀ t, v = .text (some t) → Status.canonical t = t) : f.Settled v := by
  intro isStatus t written
  cases normal with
  | missing => cases written
  | @present _ pulled _ nonempty =>
    have same : pulled = t := by
      rw [Snapshot.textOf, nonEmpty_of_ne_empty (by simpa using nonempty)] at written
      exact Option.some.inj written
    exact stable isStatus t (same ▸ rfl)
  | labels => cases isStatus

/-- A normal-form value written into a local item, a status only when it is canonical, reads back
as itself, and every other field of the item reads as before. -/
theorem pulled_value_reads_back (e : Entity) (f : Field) (v : FieldValue) (normal : f.NormalValue v)
    (stable : f = .status → ∀ t, v = .text (some t) → Status.canonical t = t) :
    (e.applyChange f v).normalize.1.get f = v ∧
      ∀ g, g ≠ f → (e.applyChange f v).normalize.1.get g = e.normalize.1.get g := by
  have written := e.normalize_applyChange f v (normal.settled stable)
  refine ⟨?_, fun g other => ?_⟩
  · rw [written f, Snapshot.get_set_self, Field.readBack_of_normalValue normal]
  · rw [written g, Snapshot.get_set_of_ne _ _ (Ne.symm other)]

theorem pulled_status_reads_back_over_synonym :
    Field.status.NormalValue (.text (some "done")) ∧
      (Field.status = .status → ∀ t, FieldValue.text (some "done") = .text (some t) →
        Status.canonical t = t) ∧
      (({ id := "L1", kind := .issue, title := "A", status := "WIP", updatedAt := 1 } : Entity).applyChange
          .status (.text (some "done"))).normalize.1.get .status = .text (some "done") ∧
      ∀ g, g ≠ .status →
        (({ id := "L1", kind := .issue, title := "A", status := "WIP", updatedAt := 1 } : Entity).applyChange
          .status (.text (some "done"))).normalize.1.get g =
        ({ id := "L1", kind := .issue, title := "A", status := "WIP", updatedAt := 1 } : Entity).normalize.1.get g := by
  have normal : Field.status.NormalValue (.text (some "done")) := .present (by decide) (by decide)
  have stable : Field.status = .status → ∀ t, FieldValue.text (some "done") = .text (some t) →
      Status.canonical t = t := by
    rintro - t ⟨⟩
    decide
  exact ⟨normal, stable, pulled_value_reads_back _ _ _ normal stable⟩

end TrackerSync
