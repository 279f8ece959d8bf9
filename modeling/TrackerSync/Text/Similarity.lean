/-!
Jaro similarity of two texts, computed in binary floating point.
-/

namespace TrackerSync.Text

/-- The position in `b` that the character `c` at position `i` of the first text matches, if
any: the first unmatched equal character in the window around `i`. -/
def matchAt (window : Nat) (b : List Char) (taken : List Bool) (i : Nat) (c : Char) :
    Option Nat :=
  let hi := min b.length (i + window + 1)
  ((List.range hi).filter (i - window ≤ ·)).find? fun j =>
    b[j]? == some c && taken[j]? == some false

/-- Match the characters of `a` against `b` in order: which of `a` and which of `b` matched. -/
def matchFlags (a b : List Char) : List Bool × List Bool :=
  let window := max a.length b.length / 2 - 1
  a.zipIdx.foldl (fun (fa, fb) (c, i) =>
    match matchAt window b fb i c with
    | some j => (fa ++ [true], fb.set j true)
    | none => (fa ++ [false], fb)) ([], b.map fun _ => false)

def matched (cs : List Char) (flags : List Bool) : List Char :=
  (cs.zip flags).filterMap fun (c, f) => if f then some c else none

def jaroOf (a b : List Char) : Float :=
  if a.isEmpty && b.isEmpty then 1.0
  else if a.isEmpty || b.isEmpty then 0.0
  else
    let (fa, fb) := matchFlags a b
    let ma := matched a fa
    let mb := matched b fb
    let m := ma.length
    let t := ((ma.zip mb).filter fun (x, y) => x != y).length / 2
    if m == 0 then 0.0
    else
      let mf := Float.ofNat m
      (mf / Float.ofNat a.length + mf / Float.ofNat b.length + Float.ofNat (m - t) / mf) / 3.0

def jaro (a b : String) : Float := jaroOf a.toList b.toList

/-- The candidates more than 0.7 similar to a text, least similar first (equal scores keep
their order). -/
def similarTo (v : String) (candidates : List String) : List String :=
  let scored := (candidates.map fun c => (jaro v c, c)).filter fun (s, _) => s > 0.7
  (scored.mergeSort fun x y => x.1 ≤ y.1).map (·.2)

end TrackerSync.Text
