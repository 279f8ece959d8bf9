import TrackerSync.Json.Shape
import TrackerSync.Remote.Basic

/-!
Requests and answers of the line interface; a failure is written
`{"error": kind, "message": text}`.
-/

namespace TrackerSync.Requests

/-- A failed request: the kind of failure, its text, and any members shown beside them. -/
structure Failure where
  kind : String
  message : String
  extra : List (String × Json) := []
  deriving Inhabited

def Failure.toJson (f : Failure) : Json :=
  Json.mkObj ([("error", .str f.kind), ("message", .str f.message)] ++ f.extra)

def badInput (message : String) : Failure := { kind := "bad_input", message }

def decodeFailure (message : String) : Failure := { kind := "Json", message }

abbrev Answer := Except Failure Json

def Answer.toJson : Answer → Json
  | .ok j => j
  | .error f => f.toJson

def need (req : Json) (name : String) : Except Failure Json :=
  match req.get? name with
  | some v => .ok v
  | none => .error (badInput ("missing field " ++ name))

def needText (req : Json) (name : String) : Except Failure String := do
  match ← need req name with
  | .str s => .ok s
  | _ => .error (badInput ("field " ++ name ++ " must be a string"))

def needList (req : Json) (name : String) : Except Failure (List Json) := do
  match ← need req name with
  | .arr items => .ok items
  | _ => .error (badInput ("field " ++ name ++ " must be an array"))

def optional (req : Json) (name : String) : Option Json :=
  match req.get? name with
  | some .null => none
  | v => v

/-- A boolean member; absent, `null` or not a boolean reads as `false`. -/
def flag (req : Json) (name : String) : Bool :=
  match req.get? name with
  | some (.bool b) => b
  | _ => false

def decodeAs {α : Type} (shape : Json.Shape) (read : Json → α) (v : Json) : Except Failure α :=
  match shape.check v with
  | .ok j => .ok (read j)
  | .error e => .error (decodeFailure e)

/-- A result of the library whose error is a text, failing with the given kind. -/
def orFail {α : Type} (kind : String) : Except String α → Except Failure α
  | .ok a => .ok a
  | .error e => .error { kind, message := e }

end TrackerSync.Requests

namespace TrackerSync.Requests

/-- A tracker failure from its request form `{kind: transport|auth|status|decode, message,
code?}` (a status code defaults to 500). -/
def remoteFailureOf (j : Json) : Except Failure Remote.Failure := do
  let kind ← needText j "kind"
  let message := (j.getStr? "message").getD ""
  match kind with
  | "transport" => return .transport message
  | "auth" => return .authentication message
  | "status" => return .status (((j.get? "code").bind Json.asNat?).getD 500) message
  | "decode" => return .decode message
  | other => throw (badInput ("unknown remote error kind " ++ other))

end TrackerSync.Requests
