import TrackerSync.Proofs.Store.Batch
import TrackerSync.Proofs.Json.Records

/-!
The rows of local items: the row written from an item reads back as that item.
-/

namespace TrackerSync

namespace Entity

theorem parse_name (k : Kind) : Kind.parse k.name = .ok k := by
  cases k <;> decide +kernel

theorem decode_labelsText (labels : List String) :
    (Json.Shape.list .text).decode (labelsText labels) = .ok (Json.ofStrings labels) := by
  have long := Json.length_le_compact_strings labels
  exact Json.Shape.decode_readsAs (Json.readsAs_strings labels) (by omega) (by decide)

theorem optionAt_ofOption (x : Option String) (cells : List Cell) (i : Nat)
    (held : cellAt cells i = .ofOption x) : optionAt cells i = .ok x := by
  unfold optionAt
  rw [held]
  cases x <;> rfl

/-- The row written from an item reads back as the item: its labels through their JSON text, its
kind by name, and its optional fields from `NULL` or text. -/
theorem ofRow_row (e : Entity) : ofRow e.row = .ok e := by
  simp only [ofRow, textAt, integerAt, optionAt_ofOption e.assignee e.row 4 rfl,
    optionAt_ofOption e.milestone e.row 5 rfl, optionAt_ofOption e.description e.row 6 rfl]
  simp only [row, cellAt, List.getD_cons_succ, List.getD_cons_zero, ok_bind]
  rw [decode_labelsText, parse_name]
  simp only [Json.strings_ofStrings]
  rfl

theorem readBack_row (e : Entity) : readBack e.row = some e := by
  simp [readBack, ofRow_row]

end Entity

theorem Table.contains_eq_isSome {ν : Type} (t : Table ν) (k : String) :
    t.contains k = (t.get? k).isSome := by
  rw [Table.contains, Table.get?, Option.isSome_map, Bool.eq_iff_iff, List.any_eq_true,
    List.find?_isSome]

namespace Store

/-- The stored row of a local id: the item, and a stray row that may not read back. -/
def rowAt (s : Store) (id : String) : Option Entity × Option (List Cell) :=
  (s.entities.get? id, s.strays.get? id)

theorem hasRow_eq (s : Store) (id : String) :
    s.hasRow id = ((s.rowAt id).1.isSome || (s.rowAt id).2.isSome) := by
  simp [hasRow, rowAt, Table.contains_eq_isSome]

@[simp] theorem rowAt_record (s : Store) (row : AuditRow) (id : String) :
    (s.record row).rowAt id = s.rowAt id := by
  unfold record
  split <;> rfl

@[simp] theorem rowAt_setSpace (s : Store) (ns : String) (t : Table String) (id : String) :
    (s.setSpace ns t).rowAt id = s.rowAt id := rfl

@[simp] theorem rowAt_put (s : Store) (ns key value id : String) :
    (s.put ns key value).rowAt id = s.rowAt id := rfl

@[simp] theorem rowAt_remove (s : Store) (ns key id : String) :
    (s.remove ns key).2.rowAt id = s.rowAt id := rfl

theorem applyWrite_rowAt {s s' : Store} {w : Write} (applied : s.applyWrite w = .ok s')
    (id : String) : s'.rowAt id = s.rowAt id := by
  cases w with
  | put ns key value =>
    simp only [applyWrite] at applied
    split at applied <;> (try split at applied) <;> cases applied <;> simp
  | delete ns key =>
    simp only [applyWrite] at applied
    split at applied <;> cases applied <;> simp
  | require ns key value =>
    simp only [applyWrite] at applied
    split at applied <;> cases applied
    rfl

theorem applyWrites_rowAt {s s' : Store} {ws : List Write} (applied : s.applyWrites ws = .ok s')
    (id : String) : s'.rowAt id = s.rowAt id := by
  induction ws generalizing s with
  | nil => cases applied; rfl
  | cons w rest ih =>
    simp only [applyWrites] at applied
    cases step : s.applyWrite w with
    | error e => rw [step] at applied; cases applied
    | ok s₁ =>
      rw [step] at applied
      rw [ih applied, applyWrite_rowAt step]

theorem commitBatch_rowAt {s s' : Store} {ws : List Write} (committed : s.commitBatch ws = .ok s')
    (id : String) : s'.rowAt id = s.rowAt id := by
  unfold commitBatch at committed
  split at committed
  · exact applyWrites_rowAt committed id
  · split at committed
    · cases committed
    · exact applyWrites_rowAt committed id

/-- A batch meets the store after another writer's planted write, which leaves every row alone. -/
theorem writeBatch_planted (s : Store) (ws : List Write) :
    ∃ met : Store, met.faults.interference = none ∧ (∀ id, met.rowAt id = s.rowAt id) ∧
      s.writeBatch ws = met.writeBatch ws := by
  unfold writeBatch
  split
  · next w planted =>
    dsimp only
    split
    · next landed committed =>
      have calm : landed.faults.interference = none := by
        rw [commitBatch_faults committed]
      refine ⟨landed, calm, fun id => commitBatch_rowAt committed id, ?_⟩
      rw [calm]
    · refine ⟨{ s with faults := { s.faults with interference := none } }, rfl, fun _ => rfl, ?_⟩
      rfl
  · next calm => exact ⟨s, calm, fun _ => rfl, by rw [calm]⟩

@[simp] theorem writeBatch_rowAt (s : Store) (ws : List Write) (id : String) :
    (s.writeBatch ws).1.rowAt id = s.rowAt id := by
  obtain ⟨met, calm, rows, same⟩ := writeBatch_planted s ws
  rw [same, ← rows id]
  rcases writeBatch_cases calm ws with kept | committed
  · rw [kept]
  · exact commitBatch_rowAt committed id

theorem putRow_row (s : Store) (e : Entity) :
    s.putRow e.id e.row = { s with entities := s.entities.insert e.id e, strays := s.strays.erase e.id } := by
  rw [putRow, Entity.readBack_row]

theorem keepItem_eq (s : Store) (e : Entity) :
    s.keepItem e = { s with entities := s.entities.insert e.id e, strays := s.strays.erase e.id } := by
  unfold keepItem
  split
  · exact putRow_row s e
  · rfl

theorem saveEntity_rowAt (s : Store) (e : Entity) (id : String) :
    (s.saveEntity e).rowAt id = if e.id = id then (some e, none) else s.rowAt id := by
  unfold saveEntity
  rw [rowAt_record, keepItem_eq]
  by_cases same : e.id = id <;> simp [rowAt, same]

@[simp] theorem saveEntity_get (s : Store) (e : Entity) : (s.saveEntity e).get = s.get := by
  unfold saveEntity
  rw [get_record, keepItem_eq]
  rfl

theorem save_rowAt {s s' : Store} {e : Entity} (saved : s.save e = .ok s') (id : String) :
    s'.rowAt id = if e.id = id then (some e, none) else s.rowAt id := by
  unfold save at saved
  split at saved
  · cases saved
  · cases saved
    exact saveEntity_rowAt _ e id
  · cases saved
    exact saveEntity_rowAt s e id

theorem save_get {s s' : Store} {e : Entity} (saved : s.save e = .ok s') : s'.get = s.get := by
  unfold save at saved
  split at saved
  · cases saved
  · cases saved
    rw [saveEntity_get]
    rfl
  · cases saved
    exact saveEntity_get s e

@[simp] theorem saveEntity_faults (s : Store) (e : Entity) : (s.saveEntity e).faults = s.faults := by
  unfold saveEntity
  rw [record_faults, keepItem_eq]

theorem save_faults {s s' : Store} {e : Entity} (saved : s.save e = .ok s') :
    ∃ n, s'.faults = { s.faults with failSaves := n } := by
  unfold save at saved
  split at saved
  · cases saved
  · cases saved
    exact ⟨_, saveEntity_faults _ _⟩
  · cases saved
    exact ⟨s.faults.failSaves, saveEntity_faults _ _⟩

theorem save_refused {s : Store} {e : Entity} {err : Error} (refused : s.save e = .error err) :
    s.faults.failSaves = some 0 := by
  unfold save at refused
  split at refused
  · next zero => exact zero
  · cases refused
  · cases refused

theorem kindTextOf?_of_entity {s : Store} {id : String} {e : Entity}
    (held : s.entities.get? id = some e) : s.kindTextOf? id = some e.kind.name := by
  simp [kindTextOf?, held]

theorem removeEntity_rowAt (s : Store) (id id' : String) :
    (s.removeEntity id).2.rowAt id' =
      if id = id' ∧ (s.kindTextOf? id).isSome then (none, none) else s.rowAt id' := by
  unfold removeEntity
  split
  · next none => simp [none]
  · next kind some =>
    rw [rowAt_record]
    by_cases same : id = id'
    · subst same
      simp [rowAt, some]
    · simp [rowAt, same]

@[simp] theorem removeEntity_get (s : Store) (id : String) : (s.removeEntity id).2.get = s.get := by
  unfold removeEntity
  split
  · rfl
  · rw [get_record]
    rfl

end Store

end TrackerSync
