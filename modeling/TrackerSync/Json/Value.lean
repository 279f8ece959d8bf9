import TrackerSync.Decimal.Shortest

/-!
JSON values: numbers in the form they were read, and maps whose keys are kept strictly
increasing so that reading, printing and comparing see one order.
-/

namespace TrackerSync

/-- A JSON number in the form it was read in. -/
inductive Number where
  /-- A natural below `2^64`. -/
  | nat (n : Nat)
  /-- The negative integer `-n`, for `0 < n ≤ 2^63`. -/
  | neg (n : Nat)
  /-- A double, for every other number. -/
  | float (f : Float)

instance : Inhabited Number := ⟨.nat 0⟩

/-- Two numbers are the same when they have the same form and value (doubles: the same bits). -/
def Number.beq : Number → Number → Bool
  | .nat a, .nat b => a == b
  | .neg a, .neg b => a == b
  | .float a, .float b => a.toBits == b.toBits
  | _, _ => false

instance : BEq Number := ⟨Number.beq⟩

/-- The text of a number: integers in decimal, doubles in shortest form (non-finite: `null`). -/
def Number.text : Number → String
  | .nat n => toString n
  | .neg n => "-" ++ toString n
  | .float f => if f.isFinite then Decimal.textOfBits f.toBits else "null"

/-- A JSON value. -/
inductive Json where
  | null
  | bool (b : Bool)
  | num (n : Number)
  | str (s : String)
  | arr (items : List Json)
  | obj (members : List (String × Json))

instance : Inhabited Json := ⟨.null⟩

namespace Json

def beq : Json → Json → Bool
  | .null, .null => true
  | .bool a, .bool b => a == b
  | .num a, .num b => a == b
  | .str a, .str b => a == b
  | .arr xs, .arr ys => beqList xs ys
  | .obj xs, .obj ys => beqMembers xs ys
  | _, _ => false
where
  beqList : List Json → List Json → Bool
    | [], [] => true
    | x :: xs, y :: ys => beq x y && beqList xs ys
    | _, _ => false
  beqMembers : List (String × Json) → List (String × Json) → Bool
    | [], [] => true
    | (k, x) :: xs, (l, y) :: ys => k == l && beq x y && beqMembers xs ys
    | _, _ => false

instance : BEq Json := ⟨Json.beq⟩

def ofNat (n : Nat) : Json := .num (.nat n)

def ofInt (i : Int) : Json := if 0 ≤ i then .num (.nat i.toNat) else .num (.neg (-i).toNat)

def ofOption (s : Option String) : Json :=
  match s with
  | some t => .str t
  | none => .null

def ofStrings (xs : List String) : Json := .arr (xs.map .str)

/-- The value with every string and every key of an object passed through `f`. -/
def mapTexts (f : String → String) : Json → Json
  | .str s => .str (f s)
  | .arr items => .arr (items_ items)
  | .obj members => .obj (members_ members)
  | other => other
where
  items_ : List Json → List Json
    | [] => []
    | x :: xs => mapTexts f x :: items_ xs
  members_ : List (String × Json) → List (String × Json)
    | [] => []
    | (k, v) :: rest => (f k, mapTexts f v) :: members_ rest

/-- Every string and every key of an object in a value, in text order. -/
def texts : Json → List String
  | .str s => [s]
  | .arr items => items_ items
  | .obj members => members_ members
  | _ => []
where
  items_ : List Json → List String
    | [] => []
    | x :: xs => texts x ++ items_ xs
  members_ : List (String × Json) → List String
    | [] => []
    | (k, v) :: rest => k :: (texts v ++ members_ rest)

end Json

namespace Obj

/-- Insert a member, keeping keys strictly increasing; an existing key gets the new value. -/
def insert : List (String × Json) → String → Json → List (String × Json)
  | [], k, v => [(k, v)]
  | (k', v') :: rest, k, v =>
    if k < k' then (k, v) :: (k', v') :: rest
    else if k == k' then (k, v) :: rest
    else (k', v') :: insert rest k v

/-- The ordered member list of any list of members; a later member wins over an earlier one. -/
def ofList (members : List (String × Json)) : List (String × Json) :=
  members.foldl (fun acc (k, v) => insert acc k v) []

def get? (members : List (String × Json)) (k : String) : Option Json :=
  (members.find? (·.1 == k)).map (·.2)

def erase (members : List (String × Json)) (k : String) : List (String × Json) :=
  members.filter (·.1 != k)

end Obj

namespace Json

/-- An object whose fields are written in the given order, as a record is written. -/
def record (fields : List (String × Json)) : Json := .obj fields

def mkObj (members : List (String × Json)) : Json := .obj (Obj.ofList members)

/-- The value of a key of an object; `none` for a missing key or a non-object. -/
def get? : Json → String → Option Json
  | .obj ms, k => Obj.get? ms k
  | _, _ => none

def getStr? (j : Json) (k : String) : Option String :=
  match j.get? k with
  | some (.str s) => some s
  | _ => none

def members? : Json → Option (List (String × Json))
  | .obj ms => some ms
  | _ => none

def isObj : Json → Bool
  | .obj _ => true
  | _ => false

def asNat? : Json → Option Nat
  | .num (.nat n) => some n
  | _ => none

def asStr? : Json → Option String
  | .str s => some s
  | _ => none

def set (j : Json) (k : String) (v : Json) : Json :=
  match j with
  | .obj ms => .obj (Obj.insert ms k v)
  | other => other

def erase (j : Json) (k : String) : Json :=
  match j with
  | .obj ms => .obj (Obj.erase ms k)
  | other => other

/-- The strings among the items of an array; nothing for any other value. -/
def strings : Json → List String
  | .arr items => items.filterMap asStr?
  | _ => []

end Json

end TrackerSync
