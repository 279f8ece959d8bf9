import TrackerSync.Requests.Basic
import TrackerSync.Status
import TrackerSync.Collection
import TrackerSync.Detection.Basic
import TrackerSync.Snapshot.Basic
import TrackerSync.Remote.Basic

/-!
Requests on the vocabulary: statuses, edit distance, kinds, seed policies, labels and methods.
-/

namespace TrackerSync.Requests

def status (req : Json) : Answer := do
  let input ← needText req "input"
  let normalized := match Status.resolve input with
    | .ok s => Json.mkObj [("ok", .str s)]
    | .error (value, suggestion) =>
      Json.mkObj [("err", Json.mkObj [("value", .str value), ("suggestion", suggestion.toJson)])]
  return Json.mkObj [("normalized", normalized), ("canonical", .str (Status.canonical input))]

def levenshtein (req : Json) : Answer := do
  let a ← needText req "a"
  let b ← needText req "b"
  return Json.mkObj [("distance", Json.ofNat (Text.distance a b))]

def kind (req : Json) : Answer := do
  let input ← needText req "input"
  let k ← orFail "UnknownKind" (Kind.parse input)
  return Json.mkObj [("kind", .str k.name), ("display", .str k.name), ("endpoint", .str k.endpoint),
    ("collection", (Collection.ofKind k).toJson)]

def seedPolicy (req : Json) : Answer := do
  let input ← needText req "input"
  let p ← orFail "UnknownSeedPolicy" (SeedPolicy.parse input)
  return Json.mkObj [("policy", .str p.name)]

def labels (req : Json) : Answer := do
  let v ← need req "labels"
  let xs ← decodeAs (.list .text) Json.strings v
  return Json.mkObj [("labels", Json.ofStrings (canonicalLabels xs))]

def method (req : Json) : Answer := do
  let name ← needText req "name"
  match Remote.Method.ofName? name with
  | some m => return Json.mkObj [("as_str", .str m.text)]
  | none => throw (badInput ("unknown method " ++ name))

end TrackerSync.Requests
