/-!
Edit distance between two texts, over their characters.
-/

namespace TrackerSync.Text

/-- The row after `prev` for the character `ca`: `left` is the entry just computed. -/
def nextRow (ca : Char) : List Nat → List Char → Nat → List Nat
  | p0 :: p1 :: ps, cb :: bs, left =>
    let v := min (min (p1 + 1) (left + 1)) (p0 + if ca == cb then 0 else 1)
    v :: nextRow ca (p1 :: ps) bs v
  | _, _, _ => []

def row (b : List Char) (prev : List Nat) (ca : Char) : List Nat :=
  let first := prev.headD 0 + 1
  first :: nextRow ca prev b first

def distanceOf (a b : List Char) : Nat :=
  (a.foldl (row b) (List.range (b.length + 1))).getLastD 0

def distance (a b : String) : Nat := distanceOf a.toList b.toList

end TrackerSync.Text
