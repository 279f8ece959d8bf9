import Mathlib.Data.List.DropRight
import TrackerSync.Snapshot.Basic

/-!
Writing comparable fields of a snapshot: a write touches its own field only.
-/

namespace TrackerSync

instance : LawfulBEq Field where
  eq_of_beq {a b} := by cases a <;> cases b <;> decide
  rfl {a} := by cases a <;> rfl

instance : LawfulBEq FieldValue where
  eq_of_beq {a b} same := by
    cases a with
    | text s =>
      cases b with
      | text t => exact congrArg FieldValue.text (eq_of_beq (show (s == t) = true from same))
      | list _ => cases same
    | list xs =>
      cases b with
      | text _ => cases same
      | list ys => exact congrArg FieldValue.list (eq_of_beq (show (xs == ys) = true from same))
  rfl {a} := by
    cases a with
    | text s => exact (beq_self_eq_true s : (s == s) = true)
    | list xs => exact (beq_self_eq_true xs : (xs == xs) = true)

/-- Labels in the form every normalizer gives them: each trimmed and non-empty, and strictly
increasing, hence sorted and without repeats. -/
structure LabelsCanonical (labels : List String) : Prop where
  trimmed : ∀ l ∈ labels, Text.trim l = l
  present : ∀ l ∈ labels, l ≠ ""
  increasing : labels.Pairwise (· < ·)

theorem nonEmpty_nonEmpty (s : Option String) : nonEmpty (nonEmpty s) = nonEmpty s := by
  cases s with
  | none => rfl
  | some t => by_cases h : t.isEmpty <;> simp [nonEmpty, h]

theorem dedupAdjacent_of_increasing {labels : List String} (h : labels.Pairwise (· < ·)) :
    dedupAdjacent labels = labels := by
  fun_induction dedupAdjacent labels with
  | case1 a b rest same _ =>
    have lt : a < b := List.rel_of_pairwise_cons h (List.mem_cons_self ..)
    exact absurd (beq_iff_eq.mp same ▸ lt) (String.lt_irrefl b)
  | case2 a b rest _ ih => rw [ih (List.Pairwise.of_cons h)]
  | case3 => rfl

theorem canonicalLabels_eq_self {labels : List String} (h : LabelsCanonical labels) :
    canonicalLabels labels = labels := by
  have trimmed : labels.map Text.trim = labels :=
    (List.map_congr_left h.trimmed).trans (List.map_id labels)
  have kept : labels.filter (fun l => !l.isEmpty) = labels :=
    List.filter_eq_self.mpr fun l mem => by simpa [String.isEmpty_iff] using h.present l mem
  have sorted : labels.mergeSort (fun a b => !(b < a)) = labels :=
    List.mergeSort_of_pairwise (h.increasing.imp fun lt => by simpa using String.lt_asymm lt)
  rw [canonicalLabels, trimmed, kept, sorted, dedupAdjacent_of_increasing h.increasing]

theorem trim_eq_rdropWhile (s : String) :
    Text.trim s = String.ofList ((s.toList.dropWhile Text.isBlank).rdropWhile Text.isBlank) := rfl

theorem dropWhile_trim (s : String) :
    (Text.trim s).toList.dropWhile Text.isBlank = (Text.trim s).toList := by
  set front := s.toList.dropWhile Text.isBlank
  rw [trim_eq_rdropWhile, String.toList_ofList, List.dropWhile_eq_self_iff]
  -- what is left after both ends are cut starts where `front` starts, with no blank
  intro nonempty
  have kept := List.rdropWhile_prefix Text.isBlank front
  have inFront : 0 < front.length := Nat.lt_of_lt_of_le nonempty kept.length_le
  rw [kept.getElem nonempty]
  exact List.dropWhile_get_zero_not Text.isBlank s.toList inFront

theorem rdropWhile_trim (s : String) :
    (Text.trim s).toList.rdropWhile Text.isBlank = (Text.trim s).toList := by
  rw [trim_eq_rdropWhile, String.toList_ofList, List.rdropWhile_idempotent]

theorem trim_trim (s : String) : Text.trim (Text.trim s) = Text.trim s := by
  rw [trim_eq_rdropWhile (Text.trim s), dropWhile_trim, rdropWhile_trim, String.ofList_toList]

theorem mem_dedupAdjacent {labels : List String} {l : String} (mem : l ∈ dedupAdjacent labels) :
    l ∈ labels := by
  fun_induction dedupAdjacent labels with
  | case1 a b rest _ ih => exact List.mem_cons_of_mem a (ih mem)
  | case2 a b rest _ ih =>
    rcases List.mem_cons.mp mem with same | later
    · exact same ▸ List.mem_cons_self ..
    · exact List.mem_cons_of_mem a (ih later)
  | case3 => exact mem

theorem increasing_dedupAdjacent {labels : List String} (sorted : labels.Pairwise (· ≤ ·)) :
    (dedupAdjacent labels).Pairwise (· < ·) := by
  fun_induction dedupAdjacent labels with
  | case1 a b rest _ ih => exact ih (List.Pairwise.of_cons sorted)
  | case2 a b rest differ ih =>
    refine List.pairwise_cons.mpr ⟨?_, ih (List.Pairwise.of_cons sorted)⟩
    intro l mem
    have below : ∀ m ∈ b :: rest, a ≤ m := fun m mem => List.rel_of_pairwise_cons sorted mem
    have aLeL : a ≤ l := below l (mem_dedupAdjacent mem)
    -- `l` is `b` or comes after it, and `a ≠ b`, so `l ≠ a`
    have distinct : l ≠ a := by
      intro same
      have bLeA : b ≤ a := by
        rcases List.mem_cons.mp (mem_dedupAdjacent mem) with isB | later
        · exact isB ▸ same ▸ String.le_refl _
        · exact same ▸ List.rel_of_pairwise_cons (List.Pairwise.of_cons sorted) later
      exact absurd (String.le_antisymm (below b (List.mem_cons_self ..)) bLeA) (by simpa using differ)
    exact String.not_le.mp fun lLeA => distinct (String.le_antisymm lLeA aLeL)
  | case3 l notPair =>
    match l, notPair with
    | [], _ => exact List.Pairwise.nil
    | [_], _ => exact List.pairwise_singleton _ _
    | a :: b :: rest, notPair => exact absurd rfl (notPair a b rest)

theorem mem_canonicalLabels {labels : List String} {l : String} (mem : l ∈ canonicalLabels labels) :
    (∃ x ∈ labels, Text.trim x = l) ∧ l ≠ "" := by
  have kept := List.mem_mergeSort.mp (mem_dedupAdjacent mem)
  obtain ⟨fromList, present⟩ := List.mem_filter.mp kept
  refine ⟨List.mem_map.mp fromList, fun empty => ?_⟩
  simp [empty] at present

theorem canonicalLabels_canonical (labels : List String) :
    LabelsCanonical (canonicalLabels labels) where
  trimmed l mem := by
    obtain ⟨⟨x, _, trimmed⟩, _⟩ := mem_canonicalLabels mem
    rw [← trimmed, trim_trim]
  present _ mem := (mem_canonicalLabels mem).2
  increasing := by
    -- the sort's comparison is the order of strings, written as a boolean
    have order : ∀ a b : String, (!decide (b < a)) = true ↔ a ≤ b := fun a b => by
      rw [Bool.not_eq_true', decide_eq_false_iff_not]
      exact String.not_lt
    have sorted := List.pairwise_mergeSort
      (fun a b c ab bc => (order a c).mpr (String.le_trans ((order a b).mp ab) ((order b c).mp bc)))
      (fun a b => Bool.or_eq_true_iff.mpr ((String.le_total a b).imp (order a b).mpr (order b a).mpr))
      ((labels.map Text.trim).filter fun l => !l.isEmpty)
    exact increasing_dedupAdjacent (sorted.imp fun le => (order _ _).mp le)

namespace Field

/-- What a field reads back once a value is written into it: a text field the written text
(an empty one as missing), the labels in canonical form. -/
def readBack : Field → FieldValue → FieldValue
  | .title, v => .text (nonEmpty (Snapshot.textOf v))
  | .status, v => .text (nonEmpty (Snapshot.textOf v))
  | .assignee, v => .text (nonEmpty (Snapshot.textOf v))
  | .milestone, v => .text (nonEmpty (Snapshot.textOf v))
  | .description, v => .text (nonEmpty (Snapshot.textOf v))
  | .labels, v => .list (Snapshot.labelsOf v)

theorem mem_all (f : Field) : f ∈ all := by
  cases f <;> simp [all]

theorem nodup_all : all.Nodup := by decide

end Field

namespace Snapshot

@[simp] theorem get_set_self (s : Snapshot) (f : Field) (v : FieldValue) :
    (s.set f v).get f = f.readBack v := by
  cases f <;> rfl

@[simp] theorem get_set_of_ne (s : Snapshot) {f g : Field} (v : FieldValue) (h : f ≠ g) :
    (s.set f v).get g = s.get g := by
  cases f <;> cases g <;> simp_all [set, get]

theorem readBack_get (s : Snapshot) (canonical : LabelsCanonical s.labels) (f : Field) :
    f.readBack (s.get f) = s.get f := by
  cases f <;> simp [Field.readBack, get, textOf, labelsOf, nonEmpty_nonEmpty,
    canonicalLabels_eq_self canonical]

def setAll (s : Snapshot) (writes : List (Field × FieldValue)) : Snapshot :=
  writes.foldl (fun s w => s.set w.1 w.2) s

theorem get_setAll_of_not_mem (s : Snapshot) (write : Field → Option FieldValue)
    {fields : List Field} {f : Field} (absent : f ∉ fields) :
    (s.setAll (fields.filterMap fun g => (write g).map (g, ·))).get f = s.get f := by
  induction fields generalizing s with
  | nil => rfl
  | cons g rest ih =>
    have other : g ≠ f := fun same => absent (same ▸ List.mem_cons_self ..)
    have later : f ∉ rest := fun mem => absent (List.mem_cons_of_mem g mem)
    cases written : write g with
    | none => rw [List.filterMap_cons, written, Option.map_none, ih s later]
    | some v =>
      rw [List.filterMap_cons, written, Option.map_some, setAll, List.foldl_cons, ← setAll,
        ih _ later, get_set_of_ne _ _ other]

/-- Writing at most one value per field, field by field: a field among them reads back its own
written value, or what it held. -/
theorem get_setAll_of_mem (s : Snapshot) (write : Field → Option FieldValue)
    {fields : List Field} (nodup : fields.Nodup) {f : Field} (mem : f ∈ fields) :
    (s.setAll (fields.filterMap fun g => (write g).map (g, ·))).get f =
      ((write f).map f.readBack).getD (s.get f) := by
  induction fields generalizing s with
  | nil => cases mem
  | cons g rest ih =>
    obtain ⟨fresh, nodupRest⟩ := List.nodup_cons.mp nodup
    by_cases same : f = g
    · subst same
      cases written : write f with
      | none =>
        rw [List.filterMap_cons, written, Option.map_none, get_setAll_of_not_mem s write fresh]
        rfl
      | some v =>
        rw [List.filterMap_cons, written, Option.map_some, setAll, List.foldl_cons, ← setAll,
          get_setAll_of_not_mem _ write fresh, get_set_self]
        rfl
    · have later : f ∈ rest := (List.mem_cons.mp mem).resolve_left same
      cases written : write g with
      | none => rw [List.filterMap_cons, written, Option.map_none, ih s nodupRest later]
      | some v =>
        rw [List.filterMap_cons, written, Option.map_some, setAll, List.foldl_cons, ← setAll,
          ih _ nodupRest later, get_set_of_ne _ _ (Ne.symm same)]

theorem get_setAll_all (s : Snapshot) (write : Field → Option FieldValue) (f : Field) :
    (s.setAll (Field.all.filterMap fun g => (write g).map (g, ·))).get f =
      ((write f).map f.readBack).getD (s.get f) :=
  get_setAll_of_mem s write Field.nodup_all (Field.mem_all f)

theorem get_setAll_every (s : Snapshot) (value : Field → FieldValue) (f : Field) :
    (s.setAll (Field.all.map fun g => (g, value g))).get f = f.readBack (value f) := by
  have every : Field.all.map (fun g => (g, value g)) =
      Field.all.filterMap fun g => (some (value g)).map (g, ·) := by
    rw [← List.filterMap_eq_map']
    rfl
  rw [every, get_setAll_all]
  rfl

end Snapshot

end TrackerSync
