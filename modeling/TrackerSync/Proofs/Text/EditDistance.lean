import Mathlib.Order.MinMax
import TrackerSync.Text.EditDistance

/-!
The row-by-row table computes the Levenshtein distance of its defining recursion.
-/

namespace TrackerSync.Text

def substitutionCost (x y : Char) : Nat := if x = y then 0 else 1

/-- The least number of single-character insertions, deletions and substitutions that turn one
list of characters into the other. -/
def editDistance : List Char → List Char → Nat
  | [], b => b.length
  | a@(_ :: _), [] => a.length
  | x :: xs, y :: ys =>
    min (min (editDistance xs (y :: ys) + 1) (editDistance (x :: xs) ys + 1))
      (editDistance xs ys + substitutionCost x y)
termination_by a b => a.length + b.length

theorem editDistance_nil_left (b : List Char) : editDistance [] b = b.length := by
  simp [editDistance]

theorem editDistance_nil_right (a : List Char) : editDistance a [] = a.length := by
  cases a <;> simp [editDistance]

theorem editDistance_cons_cons (x y : Char) (xs ys : List Char) :
    editDistance (x :: xs) (y :: ys) =
      min (min (editDistance xs (y :: ys) + 1) (editDistance (x :: xs) ys + 1))
        (editDistance xs ys + substitutionCost x y) := by
  rw [editDistance]

theorem substitutionCost_le_one (x y : Char) : substitutionCost x y ≤ 1 := by
  unfold substitutionCost
  split <;> omega

/-- The recursion holds at the last characters too. Both sides unfold, by the recursion at the
first characters and by induction, into the minimum of the same nine ways to begin and end an
edit; where one text has no first character left the lengths are counted out. -/
theorem editDistance_append_singleton (xs ys : List Char) (p q : Char) :
    editDistance (xs ++ [p]) (ys ++ [q]) =
      min (min (editDistance xs (ys ++ [q]) + 1) (editDistance (xs ++ [p]) ys + 1))
        (editDistance xs ys + substitutionCost p q) := by
  induction xs generalizing ys with
  | nil =>
    induction ys with
    | nil => simp [editDistance_cons_cons]
    | cons y ys ih =>
      simp only [List.nil_append, List.cons_append] at ih ⊢
      rw [editDistance_cons_cons, ih, editDistance_cons_cons]
      simp only [editDistance_nil_left, List.length_append, List.length_cons, List.length_nil]
      have := substitutionCost_le_one p q
      have := substitutionCost_le_one p y
      omega
  | cons x xs ih =>
    induction ys with
    | nil =>
      have last := ih []
      simp only [List.nil_append, List.cons_append] at last ⊢
      rw [editDistance_cons_cons, last, editDistance_cons_cons]
      simp only [editDistance_nil_right, List.length_append, List.length_cons, List.length_nil]
      have := substitutionCost_le_one p q
      have := substitutionCost_le_one x q
      omega
    | cons y ys sameFirst =>
      have longer := ih (y :: ys)
      have shorter := ih ys
      simp only [List.cons_append] at longer sameFirst ⊢
      rw [editDistance_cons_cons, longer, sameFirst, shorter,
        editDistance_cons_cons x y xs (ys ++ [q]), editDistance_cons_cons x y (xs ++ [p]) ys,
        editDistance_cons_cons x y xs ys]
      simp only [← Nat.add_min_add_right]
      ac_rfl

/-- The row of the table for the prefix `a`: its distances to `pre` and to `pre` extended by each
prefix of `rest`. -/
def rowFrom (a pre : List Char) : List Char → List Nat
  | [] => [editDistance a pre]
  | c :: rest => editDistance a pre :: rowFrom a (pre ++ [c]) rest

theorem rowFrom_eq_cons (a pre rest : List Char) :
    rowFrom a pre rest = editDistance a pre :: (rowFrom a pre rest).tail := by
  cases rest <;> rfl

theorem rowFrom_nil (pre rest : List Char) :
    rowFrom [] pre rest = List.range' pre.length (rest.length + 1) := by
  induction rest generalizing pre with
  | nil => simp [rowFrom, editDistance_nil_left]
  | cons c rest ih =>
    rw [rowFrom, ih, editDistance_nil_left, List.length_cons, List.range'_succ, List.length_append]
    rfl

theorem getLastD_rowFrom (a pre rest : List Char) (d : Nat) :
    (rowFrom a pre rest).getLastD d = editDistance a (pre ++ rest) := by
  induction rest generalizing pre d with
  | nil => simp [rowFrom]
  | cons c rest ih => rw [rowFrom, List.getLastD_cons, ih, List.append_assoc, List.singleton_append]

theorem beq_substitutionCost (x y : Char) : (if x == y then 0 else 1) = substitutionCost x y := by
  simp [substitutionCost]

/-- Each entry after the first is the recursion at the last characters, fed the entry to its left. -/
theorem nextRow_rowFrom (a pre rest : List Char) (ca : Char) :
    nextRow ca (rowFrom a pre rest) rest (editDistance (a ++ [ca]) pre) =
      (rowFrom (a ++ [ca]) pre rest).tail := by
  induction rest generalizing pre with
  | nil => simp [rowFrom, nextRow]
  | cons c rest ih =>
    rw [rowFrom, rowFrom_eq_cons a (pre ++ [c]), nextRow, ← rowFrom_eq_cons, beq_substitutionCost,
      ← editDistance_append_singleton, ih, rowFrom, List.tail_cons, rowFrom_eq_cons (a ++ [ca])]
    rfl

theorem row_rowFrom (a b : List Char) (ca : Char) :
    row b (rowFrom a [] b) ca = rowFrom (a ++ [ca]) [] b := by
  have first : (rowFrom a [] b).headD 0 + 1 = editDistance (a ++ [ca]) [] := by
    rw [rowFrom_eq_cons, List.headD_cons, editDistance_nil_right, editDistance_nil_right,
      List.length_append, List.length_singleton]
  rw [row, first, nextRow_rowFrom, ← rowFrom_eq_cons]

theorem foldl_row (a b p : List Char) :
    a.foldl (row b) (rowFrom p [] b) = rowFrom (p ++ a) [] b := by
  induction a generalizing p with
  | nil => rw [List.foldl_nil, List.append_nil]
  | cons ca a ih => rw [List.foldl_cons, row_rowFrom, ih, List.append_assoc, List.singleton_append]

theorem distanceOf_eq_editDistance (a b : List Char) : distanceOf a b = editDistance a b := by
  have start : List.range (b.length + 1) = rowFrom [] [] b := by
    rw [rowFrom_nil, List.range_eq_range', List.length_nil]
  rw [distanceOf, start, foldl_row, List.nil_append, getLastD_rowFrom, List.nil_append]

theorem editDistance_comm (a b : List Char) : editDistance a b = editDistance b a := by
  induction a generalizing b with
  | nil => rw [editDistance_nil_left, editDistance_nil_right]
  | cons x xs ih =>
    induction b with
    | nil => rw [editDistance_nil_left, editDistance_nil_right]
    | cons y ys ihy =>
      rw [editDistance_cons_cons, editDistance_cons_cons, ih, ih, ihy,
        min_comm (editDistance (y :: ys) xs + 1)]
      simp [substitutionCost, eq_comm]

theorem editDistance_self (a : List Char) : editDistance a a = 0 := by
  induction a with
  | nil => rw [editDistance_nil_left, List.length_nil]
  | cons x xs ih => simp [editDistance_cons_cons, ih, substitutionCost]

theorem eq_of_editDistance_eq_zero {a b : List Char} (h : editDistance a b = 0) : a = b := by
  induction a generalizing b with
  | nil => simpa [editDistance_nil_left, eq_comm] using h
  | cons x xs ih =>
    cases b with
    | nil => simp [editDistance_nil_right] at h
    | cons y ys =>
      -- deleting or inserting costs one, so only a free match of the first characters is left
      rw [editDistance_cons_cons] at h
      have tails : editDistance xs ys = 0 := by omega
      have heads : x = y := by simpa [substitutionCost] using (show substitutionCost x y = 0 by omega)
      rw [heads, ih tails]

theorem editDistance_le_max (a b : List Char) : editDistance a b ≤ max a.length b.length := by
  induction a generalizing b with
  | nil => simp [editDistance_nil_left]
  | cons x xs ih =>
    cases b with
    | nil => simp [editDistance_nil_right]
    | cons y ys =>
      rw [editDistance_cons_cons]
      have := ih ys
      have := substitutionCost_le_one x y
      simp only [List.length_cons]
      omega

/-- The distance of two texts is the edit distance of their characters; so it is symmetric, zero
exactly for equal texts, and at most the longer length. -/
theorem distance_is_edit_distance (a b : String) :
    distance a b = editDistance a.toList b.toList ∧ distance a b = distance b a ∧
      (distance a b = 0 ↔ a = b) ∧ distance a b ≤ max a.length b.length := by
  have spec (a b : String) : distance a b = editDistance a.toList b.toList :=
    distanceOf_eq_editDistance a.toList b.toList
  refine ⟨spec a b, ?_, ?_, ?_⟩
  · rw [spec, spec, editDistance_comm]
  · rw [spec]
    constructor
    · intro zero
      exact String.toList_inj.mp (eq_of_editDistance_eq_zero zero)
    · rintro rfl
      exact editDistance_self a.toList
  · rw [spec, ← String.length_toList, ← String.length_toList]
    exact editDistance_le_max a.toList b.toList

example : distance "kitten" "sitting" = 3 := by decide

end TrackerSync.Text
