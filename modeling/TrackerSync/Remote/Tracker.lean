import TrackerSync.Remote.Basic
import TrackerSync.Table
import TrackerSync.Normalized.Record

/-!
A scripted tracker: collections, scripted pages, planted failures and patch modes, answering
each request it logs.
-/

namespace TrackerSync.Remote

abbrev Params := List (String × Json)

/-- How a `PATCH` of a path answers. -/
inductive PatchMode where
  /-- Merge the parameters into the item and answer with it. -/
  | merge
  /-- Leave the item alone and answer with it. -/
  | ignore
  /-- Merge and answer `null`. -/
  | null
  /-- Merge and answer `{}`. -/
  | empty
  /-- Leave the item alone and answer `null`. -/
  | drop
  /-- Merge and answer `"ok"`. -/
  | scalar
  /-- Merge and answer `[item]`. -/
  | list
  deriving BEq, DecidableEq, Repr, Inhabited

def PatchMode.ofName? : String → Option PatchMode
  | "merge" => some .merge
  | "ignore" => some .ignore
  | "null" => some .null
  | "empty" => some .empty
  | "drop" => some .drop
  | "scalar" => some .scalar
  | "list" => some .list
  | _ => none

/-- A scripted answer to one page of a listing. -/
structure ScriptedPage where
  endpoint : String
  page : Nat
  answer : Except Failure Response
  /-- `Link` header lines sent instead of the generated one, over HTTP. -/
  linkLines : Option (List String) := none
  deriving Inhabited

/-- A logged request. -/
structure Sent where
  method : Method
  path : String
  params : Params
  deriving Inhabited

/-- A planted failure of requests with one method to one path: for good, or after a number of
requests that still succeed. -/
structure Planted where
  method : Method
  path : String
  failure : Failure
  /-- `none`: every request fails; `some n`: `n` more succeed first. -/
  allowance : Option Nat := none
  deriving Inhabited

/-- The scripted tracker. -/
structure Tracker where
  collections : Table (List Json) := {}
  pages : List ScriptedPage := []
  failures : List Planted := []
  budgets : List Planted := []
  patchModes : Table PatchMode := {}
  log : List Sent := []
  deriving Inhabited

/-- The id of an item: its `id` when it has that key, else its `number`; a string as it is, a
number in its JSON text. -/
def itemId (item : Json) : Option String :=
  let key := match item.get? "id" with
    | some v => some v
    | none => item.get? "number"
  match key with
  | some (.str s) => some s
  | some (.num n) => some n.text
  | _ => none

/-- Merge the members of a patch into an item (both objects), a patch member replacing. -/
def mergeInto (item patch : Json) : Json :=
  match item, patch with
  | .obj ms, .obj ps => .obj (ps.foldl (fun acc (k, v) => Obj.insert acc k v) ms)
  | _, _ => item

/-- The items carried by a response body: an array's items, an object's `items` array, no item
for `null` or `{}`, and otherwise the body itself. -/
def pageItems (body : Json) : List Json :=
  match body with
  | .arr items => items
  | .obj [] => []
  | .obj ms =>
    match Obj.get? ms "items" with
    | some (.arr items) => items
    | _ => [body]
  | .null => []
  | other => [other]

/-- The part of a path before its last `/` and the part after, if it has one. -/
def splitLast (path : String) : Option (String × String) :=
  let cs := path.toList
  match cs.reverse.findIdx? (· == '/') with
  | some i =>
    let n := cs.length - 1 - i
    some (String.ofList (cs.take n), String.ofList (cs.drop (n + 1)))
  | none => none

def notFound (path : String) : Failure := .status 404 (path ++ " not found")

def natParam (params : Params) (k : String) : Option Nat :=
  match Obj.get? params k with
  | some (.num (.nat n)) => some n
  | _ => none

namespace Tracker

def items (t : Tracker) (endpoint : String) : List Json := (t.collections.get? endpoint).getD []

/-- A page of a collection: the slice of `perPage` items, and whether more remain. -/
def collectionPage (t : Tracker) (endpoint : String) (page perPage : Nat) : Response :=
  let items := t.items endpoint
  let start := (page - 1) * perPage
  let stop := min (start + perPage) items.length
  { body := .arr ((items.drop start).take (stop - start)), hasNext := stop < items.length }

def scripted? (t : Tracker) (endpoint : String) (page : Nat) : Option ScriptedPage :=
  t.pages.reverse.find? fun p => p.endpoint == endpoint && p.page == page

def checkPlanted (t : Tracker) (m : Method) (path : String) : Tracker × Option Failure :=
  match t.failures.reverse.find? fun p => p.method == m && p.path == path with
  | some p => (t, some p.failure)
  | none =>
    match t.budgets.find? fun p => p.method == m && p.path == path with
    | some p =>
      if p.allowance == some 0 then (t, some p.failure)
      else
        let spend (q : Planted) : Planted :=
          if q.method == m && q.path == path then { q with allowance := q.allowance.map (· - 1) } else q
        ({ t with budgets := t.budgets.map spend }, none)
    | none => (t, none)

def updateItem (t : Tracker) (collection id : String) (f : Json → Json) : Tracker :=
  let rec go : List Json → List Json
    | [] => []
    | x :: xs => if itemId x == some id then f x :: xs else x :: go xs
  { t with collections := t.collections.insert collection (go (t.items collection)) }

def answerItem (t : Tracker) (m : Method) (path : String) (params : Params) :
    Tracker × Except Failure Response :=
  match splitLast path with
  | none => (t, .error (notFound path))
  | some (collection, id) =>
    match (t.items collection).find? (itemId · == some id) with
    | none => (t, .error (notFound path))
    | some item =>
      match m with
      | .get => (t, .ok { body := item, hasNext := false })
      | .post => (t, .error (.status 405 "method not allowed"))
      | .patch =>
        let merged := mergeInto item (.obj params)
        let t' := t.updateItem collection id fun x => mergeInto x (.obj params)
        let answer (t : Tracker) (body : Json) := (t, Except.ok ({ body, hasNext := false } : Response))
        match (t.patchModes.get? path).getD .merge with
        | .merge => answer t' merged
        | .ignore => answer t item
        | .null => answer t' .null
        | .empty => answer t' (.obj [])
        | .drop => answer t .null
        | .scalar => answer t' (.str "ok")
        | .list => answer t' (.arr [merged])

def respond (t : Tracker) (m : Method) (path : String) (params : Params) :
    Tracker × Except Failure Response :=
  match t.checkPlanted m path with
  | (t, some f) => (t, .error f)
  | (t, none) =>
    match m, natParam params "page" with
    | .get, some page =>
      let page := min page 4294967295
      match t.scripted? path page with
      | some p => (t, p.answer)
      | none => (t, .ok (t.collectionPage path page ((natParam params "per_page").getD 100)))
    | _, _ => t.answerItem m path params

def request (t : Tracker) (m : Method) (path : String) (params : Params) :
    Tracker × Except Failure Response :=
  let sent : Sent := { method := m, path, params }
  respond { t with log := t.log ++ [sent] } m path params

/-- Merge a patch into every item of a collection with the given id; how many there were. -/
def edit (t : Tracker) (endpoint id : String) (patch : Json) : Tracker × Nat :=
  let items := t.items endpoint
  let n := (items.filter (itemId · == some id)).length
  let patched := items.map fun x => if itemId x == some id then mergeInto x patch else x
  ({ t with collections := t.collections.insert endpoint patched }, n)

/-- Remove every item of a collection with the given id; how many there were. -/
def removeItems (t : Tracker) (endpoint id : String) : Tracker × Nat :=
  let items := t.items endpoint
  let n := (items.filter (itemId · == some id)).length
  let kept := items.filter (itemId · != some id)
  ({ t with collections := t.collections.insert endpoint kept }, n)

def addItem (t : Tracker) (endpoint : String) (item : Json) : Tracker :=
  { t with collections := t.collections.insert endpoint (t.items endpoint ++ [item]) }

/-- Plant a failure, replacing one planted for the same method and path. -/
def plant (t : Tracker) (p : Planted) : Tracker :=
  let other (q : Planted) : Bool := !(q.method == p.method && q.path == p.path)
  match p.allowance with
  | none => { t with failures := t.failures.filter other ++ [p] }
  | some _ => { t with budgets := t.budgets.filter other ++ [p] }

/-- Script a page, replacing one scripted for the same endpoint and page. -/
def script (t : Tracker) (p : ScriptedPage) : Tracker :=
  { t with pages := t.pages.filter (fun q => !(q.endpoint == p.endpoint && q.page == p.page)) ++ [p] }

def clearFailures (t : Tracker) : Tracker := { t with failures := [], budgets := [], pages := [] }

end Tracker

end TrackerSync.Remote
