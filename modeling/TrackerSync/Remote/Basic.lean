import TrackerSync.Json.Value
import TrackerSync.Text.Case

/-!
Talking to the tracker: requests, responses, and the four causes of failure.
-/

namespace TrackerSync.Remote

/-- A request method. -/
inductive Method where
  | get
  | patch
  | post
  deriving BEq, DecidableEq, Repr, Inhabited

namespace Method

def text : Method → String
  | .get => "GET"
  | .patch => "PATCH"
  | .post => "POST"

def ofName? (s : String) : Option Method :=
  match Text.lower s with
  | "get" => some .get
  | "patch" => some .patch
  | "post" => some .post
  | _ => none

end Method

/-- Why a request to the tracker failed. -/
inductive Failure where
  /-- The request never got an answer. -/
  | transport (message : String)
  /-- The tracker refused the credentials. -/
  | authentication (message : String)
  /-- The tracker answered with a status that is not success. -/
  | status (code : Nat) (body : String)
  /-- The answer could not be read. -/
  | decode (message : String)
  deriving BEq, DecidableEq, Repr, Inhabited

namespace Failure

def message : Failure → String
  | .transport m => "transport failure: " ++ m
  | .authentication m => "authentication rejected: " ++ m
  | .status code body => "remote returned " ++ toString code ++ ": " ++ body
  | .decode m => "undecodable response: " ++ m

def kind : Failure → String
  | .transport _ => "Transport"
  | .authentication _ => "Authentication"
  | .status _ _ => "Status"
  | .decode _ => "Decode"

def isFatal : Failure → Bool
  | .authentication _ => true
  | _ => false

def isNotFound : Failure → Bool
  | .status 404 _ => true
  | _ => false

end Failure

/-- A decoded answer of the tracker. -/
structure Response where
  body : Json
  /-- Whether the answer advertised a next page. -/
  hasNext : Bool
  deriving Inhabited

end TrackerSync.Remote
