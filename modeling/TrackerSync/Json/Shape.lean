import TrackerSync.Json.Parse
import TrackerSync.Json.Print
import TrackerSync.Text.Debug

/-!
Typed reading of JSON: a `Shape` says what kind of value is expected at each place of a
document, and reading checks it against a value or directly against text.
-/

namespace TrackerSync.Json

/-- What a missing record field becomes. -/
inductive Absent where
  /-- The field must be present. -/
  | required
  /-- A missing field reads as `null` from an object; an array must still hold it. -/
  | optional
  /-- A missing field takes this value, from an object or from an array. -/
  | fallback (v : Json)

/-- What kind of value is expected at one place. -/
inductive Shape where
  /-- Any value, kept as it is. -/
  | any
  /-- A string. -/
  | text
  /-- A boolean. -/
  | flag
  /-- A natural up to `max`, named `name` in messages. -/
  | unsigned (name : String) (max : Nat)
  /-- An integer in `[lo, hi]`, named `name` in messages. -/
  | signed (name : String) (lo hi : Int)
  /-- `null` or a value of the inner shape. -/
  | optional (inner : Shape)
  /-- An array of values of the inner shape. -/
  | list (inner : Shape)
  /-- An object whose values have the inner shape. -/
  | table (inner : Shape)
  /-- A record with named fields, from an object or from an array in field order. -/
  | record (name : String) (fields : List (String × Shape × Absent))
  /-- One of a fixed set of names, as a string (or as an object of one member with `null`). -/
  | choice (variants : List String)
  /-- A string accepted by a check, which gives the value kept. -/
  | checked (expecting : String) (check : String → Except String Json)
  /-- The first of several shapes that a value fits. -/
  | either (name : String) (alternatives : List Shape)

/-- How a value is named when it is not what was expected. -/
def unexpected : Json → String
  | .null => "null"
  | .bool b => "boolean `" ++ toString b ++ "`"
  | .num (.nat n) => "integer `" ++ toString n ++ "`"
  | .num (.neg n) => "integer `-" ++ toString n ++ "`"
  | .num (.float f) => "floating point `" ++ Decimal.plainTextOfBits f.toBits ++ "`"
  | .str s => "string " ++ Text.quoted s
  | .arr _ => "sequence"
  | .obj _ => "map"

def invalidType (unexp expected : String) : String :=
  "invalid type: " ++ unexp ++ ", expected " ++ expected

def invalidValue (unexp expected : String) : String :=
  "invalid value: " ++ unexp ++ ", expected " ++ expected

def missingField (name : String) : String := "missing field `" ++ name ++ "`"

def duplicateField (name : String) : String := "duplicate field `" ++ name ++ "`"

/-- Names in backquotes: one, two joined by `or`, or a list after `one of`. -/
def oneOf : List String → String
  | [] => ""
  | [a] => "`" ++ a ++ "`"
  | [a, b] => "`" ++ a ++ "` or `" ++ b ++ "`"
  | names => "one of " ++ ", ".intercalate (names.map fun n => "`" ++ n ++ "`")

def unknownVariant (name : String) (variants : List String) : String :=
  if variants.isEmpty then "unknown variant `" ++ name ++ "`, there are no variants"
  else "unknown variant `" ++ name ++ "`, expected " ++ oneOf variants

def invalidLength (n : Nat) (expected : String) : String :=
  "invalid length " ++ toString n ++ ", expected " ++ expected

def recordExpecting (name : String) (fields : List (String × Shape × Absent)) : String :=
  "struct " ++ name ++ " with " ++ toString fields.length ++ " elements"

/-- What each shape is called when a value of another kind is found. -/
def Shape.expecting : Shape → String
  | .any => "any value"
  | .text => "a string"
  | .flag => "a boolean"
  | .unsigned name _ => name
  | .signed name _ _ => name
  | .optional _ => "option"
  | .list _ => "a sequence"
  | .table _ => "a map"
  | .record name _ => "struct " ++ name
  | .choice _ => "string or map"
  | .checked e _ => e
  | .either name _ => "untagged enum " ++ name

def checkUnsigned (name : String) (max : Nat) (n : Number) : Except String Json :=
  match n with
  | .nat k => if k ≤ max then .ok (.num n) else .error (invalidValue (unexpected (.num n)) name)
  | .neg _ => .error (invalidValue (unexpected (.num n)) name)
  | .float _ => .error (invalidType (unexpected (.num n)) name)

def checkSigned (name : String) (lo hi : Int) (n : Number) : Except String Json :=
  match n with
  | .nat k => if (k : Int) ≤ hi then .ok (.num n) else .error (invalidValue (unexpected (.num n)) name)
  | .neg k => if lo ≤ -(k : Int) then .ok (.num n) else .error (invalidValue (unexpected (.num n)) name)
  | .float _ => .error (invalidType (unexpected (.num n)) name)

def checkVariant (variants : List String) (name : String) : Except String Json :=
  if variants.contains name then .ok (.str name) else .error (unknownVariant name variants)

def fieldShape : List (String × Shape × Absent) → String → Option Shape
  | [], _ => none
  | (k, s, _) :: fs, name => if k == name then some s else fieldShape fs name

/-- Fill in the fields an object lacks, in field order; the first required one missing is an
error. -/
def fillMissing : List (String × Shape × Absent) → List (String × Json) → Except String Json
  | [], found => .ok (mkObj found)
  | (k, _, absent) :: fs, found =>
    if (Obj.get? (Obj.ofList found) k).isSome then fillMissing fs found
    else
      match absent with
      | .required => .error (missingField k)
      | .optional => fillMissing fs ((k, .null) :: found)
      | .fallback d => fillMissing fs ((k, d) :: found)

/-- The fields of a record from the members of an object, in key order, each checked by `chk`;
`found` collects them. -/
def checkRecordMembers (chk : Shape → Json → Except String Json)
    (fields : List (String × Shape × Absent)) :
    List (String × Json) → List (String × Json) → Except String Json
  | [], found => fillMissing fields found
  | (k, x) :: rest, found =>
    match fieldShape fields k with
    | some s => do
      let y ← chk s x
      checkRecordMembers chk fields rest ((k, y) :: found)
    | none => checkRecordMembers chk fields rest found

/-- The fields of a record from the items of an array, in field order, each checked by `chk`;
gives the items left over. -/
def checkRecordItems (chk : Shape → Json → Except String Json) (name : String)
    (all : List (String × Shape × Absent)) :
    List (String × Shape × Absent) → List Json → List (String × Json) →
      Except String (Json × List Json)
  | [], items, found => .ok (mkObj found.reverse, items)
  | (k, s, absent) :: fs, items, found =>
    match items with
    | x :: xs => do
      let y ← chk s x
      checkRecordItems chk name all fs xs ((k, y) :: found)
    | [] =>
      match absent with
      | .fallback d => checkRecordItems chk name all fs [] ((k, d) :: found)
      | _ => .error (invalidLength found.length (recordExpecting name all))

/-- The first alternative a value fits under `chk`, and what it gives. -/
def firstFit (chk : Shape → Json → Except String Json) : List Shape → Json → Option Json
  | [], _ => none
  | s :: ss, v =>
    match chk s v with
    | .ok j => some j
    | .error _ => firstFit chk ss v

/-- Check a value against a shape, descending at most `fuel` levels into shapes and values. -/
def Shape.checkUpTo : Nat → Shape → Json → Except String Json
  | 0, _, _ => .error "recursion limit exceeded"
  | fuel + 1, shape, v =>
    match shape, v with
    | .any, v => .ok v
    | .text, .str s => .ok (.str s)
    | .text, v => .error (invalidType (unexpected v) "a string")
    | .flag, .bool b => .ok (.bool b)
    | .flag, v => .error (invalidType (unexpected v) "a boolean")
    | .unsigned name max, .num n => checkUnsigned name max n
    | .unsigned name _, v => .error (invalidType (unexpected v) name)
    | .signed name lo hi, .num n => checkSigned name lo hi n
    | .signed name _ _, v => .error (invalidType (unexpected v) name)
    | .optional _, .null => .ok .null
    | .optional inner, v => checkUpTo fuel inner v
    | .list inner, .arr items => (items.mapM (checkUpTo fuel inner)).map .arr
    | .list _, v => .error (invalidType (unexpected v) "a sequence")
    | .table inner, .obj members =>
      (members.mapM fun (m : String × Json) => (checkUpTo fuel inner m.2).map (m.1, ·)).map .obj
    | .table _, v => .error (invalidType (unexpected v) "a map")
    | .record _ fields, .obj members => checkRecordMembers (checkUpTo fuel) fields members []
    | .record name fields, .arr items =>
      match checkRecordItems (checkUpTo fuel) name fields fields items [] with
      | .ok (j, rest) =>
        if rest.isEmpty then .ok j
        else .error (invalidLength items.length "fewer elements in array")
      | .error e => .error e
    | .record name _, v => .error (invalidType (unexpected v) ("struct " ++ name))
    | .choice variants, .str s => checkVariant variants s
    | .choice variants, .obj [(k, .null)] => checkVariant variants k
    | .choice variants, .obj [(k, other)] =>
      match checkVariant variants k with
      | .ok _ => .error (invalidType (unexpected other) "unit")
      | .error e => .error e
    | .choice _, .obj _ => .error (invalidValue "map" "map with a single key")
    | .choice _, v => .error (invalidType (unexpected v) "string or map")
    | .checked _ chk, .str s => chk s
    | .checked expecting _, v => .error (invalidType (unexpected v) expecting)
    | .either name alternatives, v =>
      match firstFit (checkUpTo fuel) alternatives v with
      | some j => .ok j
      | none => .error ("data did not match any variant of untagged enum " ++ name)

def depth : Json → Nat
  | .arr items => 1 + depthItems items
  | .obj members => 1 + depthMembers members
  | _ => 0
where
  depthItems : List Json → Nat
    | [] => 0
    | x :: xs => max (depth x) (depthItems xs)
  depthMembers : List (String × Json) → Nat
    | [] => 0
    | (_, x) :: xs => max (depth x) (depthMembers xs)

def Shape.depth : Shape → Nat
  | .optional inner => 1 + inner.depth
  | .list inner => 1 + inner.depth
  | .table inner => 1 + inner.depth
  | .record _ fields => 1 + depthFields fields
  | .either _ alternatives => 1 + depthAlternatives alternatives
  | _ => 0
where
  depthFields : List (String × Shape × Absent) → Nat
    | [] => 0
    | (_, s, _) :: fs => max s.depth (depthFields fs)
  depthAlternatives : List Shape → Nat
    | [] => 0
    | s :: ss => max s.depth (depthAlternatives ss)

def Shape.check (shape : Shape) (v : Json) : Except String Json :=
  shape.checkUpTo (v.depth + shape.depth + 1) v


end TrackerSync.Json
