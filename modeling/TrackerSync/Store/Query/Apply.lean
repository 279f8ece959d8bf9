import TrackerSync.Store.Query.Statement
import TrackerSync.Store.Basic

/-!
Applying statements to a durable store seen as tables of rows.
-/

namespace TrackerSync.Query

/-- How a column converts the values stored in it. -/
inductive Affinity where
  | text
  | integer
  deriving BEq, Repr, Inhabited

/-- The whole number a text spells, blanks around it allowed, within 64 bits. -/
def integerText? (s : String) : Option Int :=
  let cs := (s.toList.dropWhile (· == ' ')).reverse.dropWhile (· == ' ') |>.reverse
  let (negative, digits) := match cs with
    | '-' :: ds => (true, ds)
    | '+' :: ds => (false, ds)
    | ds => (false, ds)
  if digits.isEmpty || !digits.all Char.isDigit then none
  else
    let n : Int := if negative then -(digitsValue digits : Int) else digitsValue digits
    if n < -9223372036854775808 || n > 9223372036854775807 then none else some n

def Affinity.apply : Affinity → Cell → Cell
  | .text, .integer n => .text (toString n)
  | .integer, .text s => match integerText? s with
    | some n => .integer n
    | none => .text s
  | _, c => c

/-- A column of a table. -/
structure Column where
  name : String
  affinity : Affinity := .text
  notNull : Bool := false
  /-- The value of a row inserted without one. -/
  fallback : Cell := .null
  /-- Whether a row inserted without a value takes the next number. -/
  numbered : Bool := false
  deriving Inhabited

/-- A table: its name, its columns, the columns whose values together no two rows share, and
its rows. -/
structure Relation where
  name : String
  columns : List Column
  key : List Nat
  rows : List (List Cell)
  deriving Inhabited

def columnIndex? (cols : List Column) (n : String) : Option Nat :=
  cols.findIdx? fun c => c.name.toLower == n.toLower

/-- A value with the affinity of the column it was read from, if any. -/
structure Operand where
  cell : Cell
  affinity : Option Affinity := none

/-- The number at the start of a text, as a condition reads it. -/
def leadingInteger (s : String) : Int :=
  let cs := s.toList.dropWhile (· == ' ')
  let (negative, rest) := match cs with
    | '-' :: ds => (true, ds)
    | '+' :: ds => (false, ds)
    | ds => (false, ds)
  let n : Int := digitsValue (rest.takeWhile Char.isDigit)
  if negative then -n else n

def truth : Cell → Option Bool
  | .null => none
  | .integer n => some (n != 0)
  | .text s => some (leadingInteger s != 0)

def ofTruth : Option Bool → Cell
  | some true => .integer 1
  | some false => .integer 0
  | none => .null

def textOf : Cell → Option String
  | .null => none
  | .integer n => some (toString n)
  | .text s => some s

/-- The order of two values that are not `NULL`: numbers before texts. -/
def order : Cell → Cell → Ordering
  | .integer a, .integer b => compare a b
  | .integer _, _ => .lt
  | _, .integer _ => .gt
  | .text a, .text b => compare a b
  | _, _ => .eq

def compareOperands (op : Comparison) (a b : Operand) : Cell :=
  let (x, y) := match a.affinity, b.affinity with
    | some .integer, some .integer => (a.cell, b.cell)
    | some .integer, _ => (a.cell, Affinity.integer.apply b.cell)
    | _, some .integer => (Affinity.integer.apply a.cell, b.cell)
    | some .text, none => (a.cell, Affinity.text.apply b.cell)
    | none, some .text => (Affinity.text.apply a.cell, b.cell)
    | _, _ => (a.cell, b.cell)
  if x == .null || y == .null then .null
  else
    let o := order x y
    ofTruth <| some <| match op with
      | .eq => o == .eq
      | .ne => o != .eq
      | .lt => o == .lt
      | .le => o != .gt
      | .gt => o == .gt
      | .ge => o != .lt

/-- Refuse an expression that names a column the table does not have. -/
def check (cols : List Column) : Expr → Except String Unit
  | .column n => if (columnIndex? cols n).isSome then .ok () else .error ("no such column: " ++ n)
  | .value _ | .quoted _ => .ok ()
  | .negate e | .not e | .isNull e _ => check cols e
  | .concat a b | .compare _ a b | .both a b | .either a b => do
    check cols a
    check cols b

def eval (cols : List Column) (row : List Cell) : Expr → Operand
  | .value c => { cell := c }
  | .column n =>
    match columnIndex? cols n with
    | some i => { cell := row.getD i .null, affinity := (cols[i]?).map (·.affinity) }
    | none => { cell := .null }
  | .quoted n =>
    match columnIndex? cols n with
    | some i => { cell := row.getD i .null, affinity := (cols[i]?).map (·.affinity) }
    | none => { cell := .text n }
  | .negate e =>
    match (eval cols row e).cell with
    | .integer n => { cell := .integer (-n) }
    | .text s => { cell := .integer (-(leadingInteger s)) }
    | .null => { cell := .null }
  | .concat a b =>
    match textOf (eval cols row a).cell, textOf (eval cols row b).cell with
    | some x, some y => { cell := .text (x ++ y) }
    | _, _ => { cell := .null }
  | .compare op a b => { cell := compareOperands op (eval cols row a) (eval cols row b) }
  | .isNull e negated => { cell := ofTruth (some (((eval cols row e).cell == .null) != negated)) }
  | .not e => { cell := ofTruth ((truth (eval cols row e).cell).map (!·)) }
  | .both a b =>
    { cell := ofTruth <| match truth (eval cols row a).cell, truth (eval cols row b).cell with
        | some false, _ | _, some false => some false
        | some true, some true => some true
        | _, _ => none }
  | .either a b =>
    { cell := ofTruth <| match truth (eval cols row a).cell, truth (eval cols row b).cell with
        | some true, _ | _, some true => some true
        | some false, some false => some false
        | _, _ => none }

def meets (cols : List Column) (cond : Option Expr) (row : List Cell) : Bool :=
  match cond with
  | some e => truth (eval cols row e).cell == some true
  | none => true

namespace Relation

def emptyRequired (r : Relation) (row : List Cell) : Option String :=
  (r.columns.zip row |>.find? fun (c, v) => c.notNull && v == .null).map fun (c, _) =>
    "NOT NULL constraint failed: " ++ r.name ++ "." ++ c.name

/-- The key of a row; none when a part of it is empty, as such rows never clash. -/
def keyOf (r : Relation) (row : List Cell) : Option (List Cell) :=
  let cells := r.key.map fun i => row.getD i .null
  if cells.contains .null then none else some cells

def clash (r : Relation) : String :=
  "UNIQUE constraint failed: " ++
    ", ".intercalate (r.key.map fun i => r.name ++ "." ++ ((r.columns[i]?).map (·.name)).getD "")

def hasClash (r : Relation) (rows : List (List Cell)) : Bool :=
  let keys := rows.filterMap r.keyOf
  keys.length != keys.eraseDups.length

def validate (r : Relation) (rows : List (List Cell)) : Except String (List (List Cell)) :=
  match rows.findSome? r.emptyRequired with
  | some why => .error why
  | none => if r.hasClash rows then .error r.clash else .ok rows

def update (r : Relation) (sets : List (String × Expr)) (cond : Option Expr) :
    Except String Relation := do
  let targets ← sets.mapM fun (n, e) => do
    match columnIndex? r.columns n with
    | some i => pure (i, e)
    | none => throw ("no such column: " ++ n)
  sets.forM fun (_, e) => check r.columns e
  cond.forM (check r.columns)
  let rows := r.rows.map fun row =>
    if meets r.columns cond row then
      let values := targets.map fun (i, e) =>
        let affinity : Affinity := ((r.columns[i]?).map Column.affinity).getD .text
        (i, affinity.apply (eval r.columns row e).cell)
      (List.range row.length).map fun i =>
        match values.reverse.find? (·.1 == i) with
        | some (_, v) => v
        | none => row.getD i .null
    else row
  let rows ← r.validate rows
  return { r with rows }

def delete (r : Relation) (cond : Option Expr) : Except String Relation := do
  cond.forM (check r.columns)
  return { r with rows := r.rows.filter fun row => !meets r.columns cond row }

def nextNumber (rows : List (List Cell)) (i : Nat) : Int :=
  (rows.filterMap fun row => match row.getD i .null with
    | .integer n => some n
    | _ => none).foldl max 0 + 1

/-- Add rows given by their values, for the named columns or for all of them. -/
def insert (r : Relation) (names : Option (List String)) (given : List (List Expr)) :
    Except String Relation := do
  let targets ← match names with
    | some ns => ns.mapM fun n => match columnIndex? r.columns n with
      | some i => pure i
      | none => throw ("table " ++ r.name ++ " has no column named " ++ n)
    | none => pure (List.range r.columns.length)
  given.forM fun vs => vs.forM (check [])
  given.forM fun vs =>
    if vs.length == targets.length then pure ()
    else match names with
      | some _ => throw (toString vs.length ++ " values for " ++ toString targets.length ++ " columns")
      | none => throw ("table " ++ r.name ++ " has " ++ toString r.columns.length ++
          " columns but " ++ toString vs.length ++ " values were supplied")
  let rows := given.foldl (fun rows vs =>
    let values := targets.zip (vs.map fun e => (eval [] [] e).cell)
    let row := (r.columns.zipIdx).map fun (c, i) =>
      match values.reverse.find? (·.1 == i) with
      | some (_, v) =>
        if v == .null && c.numbered then .integer (nextNumber rows i) else c.affinity.apply v
      | none => if c.numbered then .integer (nextNumber rows i) else c.fallback
    rows ++ [row]) r.rows
  let rows ← r.validate rows
  return { r with rows }

def apply (r : Relation) : Statement → Except String Relation
  | .update _ sets cond => r.update sets cond
  | .delete _ cond => r.delete cond
  | .insert _ names rows => r.insert names rows

end Relation

/-! The tables of a store. -/

def entitiesTable : List Column :=
  [{ name := "id" }, { name := "kind", notNull := true, fallback := .text "issue" },
   { name := "title", notNull := true }, { name := "status", notNull := true, fallback := .text "todo" },
   { name := "assignee" }, { name := "milestone" }, { name := "description" },
   { name := "labels", notNull := true, fallback := .text "[]" },
   { name := "updated_at", affinity := .integer, notNull := true }]

def kvTable : List Column :=
  [{ name := "namespace", notNull := true }, { name := "key", notNull := true },
   { name := "value", notNull := true }, { name := "updated_at", affinity := .integer, notNull := true }]

def eventsTable : List Column :=
  [{ name := "id", affinity := .integer, numbered := true },
   { name := "entity_type", notNull := true }, { name := "entity_id", notNull := true },
   { name := "event_type", notNull := true }, { name := "actor", notNull := true },
   { name := "old_value" }, { name := "new_value" }, { name := "comment" },
   { name := "created_at", affinity := .integer, notNull := true }]

def migrationsTable : List Column :=
  [{ name := "version" }, { name := "applied_at", affinity := .integer, notNull := true }]

end TrackerSync.Query

namespace TrackerSync.Store

open Query

/-- The row of an audit row numbered `id`, written at `now` unless it says otherwise. -/
def eventRow (now : Int) (id : Nat) (a : AuditRow) : List Cell :=
  [.integer id, .text a.entityType, .text a.entityId, .text a.kind.name, .text a.actor,
   .ofOption a.oldValue, .ofOption a.newValue, .ofOption a.comment, .integer (a.stamp.getD now)]

def relation? (s : Store) (now : Int) (table : String) : Option Relation :=
  match table.toLower with
  | "entities" =>
    some { name := "entities", columns := entitiesTable, key := [0]
           rows := s.entities.values.map Entity.row ++ s.strays.values }
  | "kv_entries" =>
    some { name := "kv_entries", columns := kvTable, key := [0, 1]
           rows := s.kv.entries.flatMap fun (ns, t) =>
             t.entries.map fun (k, v) => [.text ns, .text k, .text v, .integer now] }
  | "events" =>
    let n := s.audit.length
    some { name := "events", columns := eventsTable, key := [0]
           rows := (s.audit.zipIdx.map fun (a, i) => eventRow now (n - i) a).reverse }
  | "schema_migrations" =>
    some { name := "schema_migrations", columns := migrationsTable, key := [0]
           rows := [[.text "v1", .integer now]] }
  | _ => none

def textAt (row : List Cell) (i : Nat) : String := (textOf (row.getD i .null)).getD ""

def numberAt (row : List Cell) (i : Nat) : Int :=
  match row.getD i .null with
  | .integer n => n
  | _ => 0

/-- The audit row of a stored event row written at `time` (`now` meaning just now). -/
def auditOfRow (now : Int) (row : List Cell) : AuditRow :=
  { entityType := textAt row 1, entityId := textAt row 2, kind := .ofName (textAt row 3)
    actor := textAt row 4, oldValue := textOf (row.getD 5 .null)
    newValue := textOf (row.getD 6 .null), comment := textOf (row.getD 7 .null)
    stamp := if numberAt row 8 == now then none else some (numberAt row 8) }

def withRelation (s : Store) (now : Int) (r : Relation) : Store :=
  match r.name with
  | "entities" =>
    r.rows.foldl (fun st row => match (row.getD 0 .null).text? with
        | some id => st.putRow id row
        | none => st)
      { s with entities := {}, strays := {} }
  | "kv_entries" =>
    r.rows.foldl (fun st row => st.put (textAt row 0) (textAt row 1) (textAt row 2)) { s with kv := {} }
  | "events" =>
    let newestFirst := r.rows.mergeSort fun a b =>
      numberAt a 8 > numberAt b 8 || (numberAt a 8 == numberAt b 8 && numberAt a 0 ≥ numberAt b 0)
    { s with audit := newestFirst.map (auditOfRow now) }
  | _ => s

def applyStatement (s : Store) (now : Int) (st : Statement) : Except String Store := do
  let table := match st with
    | .update t _ _ | .delete t _ | .insert t _ _ => t
  match s.relation? now table with
  | none => throw ("no such table: " ++ table)
  | some r => return s.withRelation now (← r.apply st)

/-- Apply the statements of a batch in order, stopping at the first that fails. -/
def applyBatch (s : Store) (now : Int) : Nat → List Token → Store × Option String
  | 0, _ => (s, none)
  | fuel + 1, ts =>
    match next (ts.length + 1) ts with
    | .error why => (s, some why)
    | .ok none => (s, none)
    | .ok (some (st, rest)) =>
      match s.applyStatement now st with
      | .error why => (s, some why)
      | .ok s' => applyBatch s' now fuel rest

/-- Run a text of statements on a store, `now` being when the store writes its audit rows:
the store afterwards and the refusal that stopped the batch, if any. -/
def runStatements (s : Store) (now : Int) (text : String) : Store × Option String :=
  let ts := tokens text
  s.applyBatch now (ts.length + 1) ts

end TrackerSync.Store
