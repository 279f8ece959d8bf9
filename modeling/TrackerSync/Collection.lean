import TrackerSync.Entity.Kind
import TrackerSync.Json.Value

/-!
A collection on the tracker: the kind of item it holds, the endpoint that lists it and the
parameters sent with every listing request.
-/

namespace TrackerSync

/-- A collection of items of one kind on the tracker. -/
structure Collection where
  kind : Kind
  endpoint : String
  params : List (String × Json) := []
  deriving Inhabited

namespace Collection

def ofKind (kind : Kind) : Collection := { kind, endpoint := kind.endpoint }

def toJson (c : Collection) : Json :=
  Json.mkObj [("kind", .str c.kind.name), ("endpoint", .str c.endpoint), ("params", .obj c.params)]

end Collection

end TrackerSync
