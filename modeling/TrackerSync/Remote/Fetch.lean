import TrackerSync.Remote.Tracker
import TrackerSync.Sync.Event

/-!
Reading a collection page by page, and one item by id.
-/

namespace TrackerSync.Remote

variable {m : Type → Type} [Monad m]

/-- Read the pages from `page` on, at most `left` more of them. -/
def fetchPages (send : Method → String → Params → m (Except Failure Response))
    (emit : Event → m Unit) (endpoint : String) (params : Params) (perPage maxPages : Nat) :
    Nat → Nat → List Json → m (Except Failure (List Json))
  | 0, _, acc => return .ok acc
  | left + 1, page, acc => do
    let query := Obj.insert (Obj.insert params "page" (Json.ofNat page)) "per_page" (Json.ofNat perPage)
    match ← send .get endpoint query with
    | .error e => return .error e
    | .ok r =>
      let items := pageItems r.body
      emit (.pageFetched endpoint page items.length)
      if items.isEmpty then return .ok acc
      let acc := acc ++ items
      if !r.hasNext then return .ok acc
      if page ≥ maxPages then
        emit (.pageLimitReached endpoint maxPages)
        return .ok acc
      fetchPages send emit endpoint params perPage maxPages left (page + 1) acc

/-- Read every item of a collection, in the order of the answers. -/
def fetchAll (send : Method → String → Params → m (Except Failure Response))
    (emit : Event → m Unit) (endpoint : String) (params : Params) (perPage maxPages : Nat) :
    m (Except Failure (List Json)) :=
  fetchPages send emit endpoint params (max 1 perPage) (max 1 maxPages) (max 1 maxPages) 1 []

def trimTrailingSlashes (s : String) : String :=
  String.ofList (s.toList.reverse.dropWhile (· == '/')).reverse

def fetchOne (send : Method → String → Params → m (Except Failure Response))
    (endpoint remoteId : String) : m (Except Failure (Option Json)) := do
  match ← send .get (trimTrailingSlashes endpoint ++ "/" ++ remoteId) [] with
  | .ok r => return .ok (pageItems r.body).head?
  | .error e => return if e.isNotFound then .ok none else .error e

end TrackerSync.Remote
