import TrackerSync.Remote.Fetch
import TrackerSync.Proofs.Json.Records

/-!
Reading a collection page by page against a scripted client: the pages read, in order, up to
the first that ends the listing or the ceiling.
-/

namespace TrackerSync.Remote

/-- What a reading leaves behind: the requests sent and the events emitted, each in order. -/
structure Trace where
  sent : List (Method × String × Params) := []
  events : List Event := []

/-- A client that answers the `n`-th request (counting from 1) with the `n`-th answer of a
script, logging the request. -/
def scriptedSend (script : Nat → Except Failure Response) (m : Method) (endpoint : String)
    (query : Params) : StateM Trace (Except Failure Response) :=
  fun t => (script (t.sent.length + 1), { t with sent := t.sent ++ [(m, endpoint, query)] })

def logEvent (e : Event) : StateM Trace Unit := fun t => ((), { t with events := t.events ++ [e] })

def pageQuery (params : Params) (perPage page : Nat) : Params :=
  Obj.insert (Obj.insert params "page" (Json.ofNat page)) "per_page" (Json.ofNat perPage)

/-- The query of a page holds its number and the page size, and every other parameter of the
caller. -/
theorem get?_pageQuery (params : Params) (perPage page : Nat) (key : String) :
    Obj.get? (pageQuery params perPage page) key =
      if key = "per_page" then some (Json.ofNat perPage)
      else if key = "page" then some (Json.ofNat page) else Obj.get? params key := by
  rw [pageQuery, Obj.get?_insert, Obj.get?_insert]
  by_cases size : key = "per_page"
  · simp [size]
  · by_cases number : key = "page"
    · simp [number]
    · simp [size, number, Ne.symm size, Ne.symm number]

def answerItems : Except Failure Response → List Json
  | .ok r => pageItems r.body
  | .error _ => []

/-- Whether an answer ends the reading by itself: an empty page, or one with no next page. -/
def endsReading : Except Failure Response → Bool
  | .ok r => (pageItems r.body).isEmpty || !r.hasNext
  | .error _ => false

def isPage : Except Failure Response → Bool
  | .ok _ => true
  | .error _ => false

theorem exists_of_isPage {a : Except Failure Response} (page : isPage a = true) :
    ∃ r, a = .ok r := by
  cases a with
  | ok r => exact ⟨r, rfl⟩
  | error e => cases page

def pageRequests (endpoint : String) (params : Params) (perPage : Nat) (pages : List Nat) :
    List (Method × String × Params) :=
  pages.map fun p => (.get, endpoint, pageQuery params perPage p)

def pagesFetched (script : Nat → Except Failure Response) (endpoint : String) (pages : List Nat) :
    List Event :=
  pages.map fun p => .pageFetched endpoint p (answerItems (script p)).length

section Loop

variable (script : Nat → Except Failure Response) (endpoint : String) (params : Params)
  (perPage ceiling : Nat)

theorem scriptedSend_bind {β : Type} (m : Method) (e : String) (q : Params)
    (f : Except Failure Response → StateM Trace β) (t : Trace) :
    (scriptedSend script m e q >>= f).run t =
      (f (script (t.sent.length + 1))).run { t with sent := t.sent ++ [(m, e, q)] } := rfl

theorem logEvent_bind {β : Type} (e : Event) (f : Unit → StateM Trace β) (t : Trace) :
    (logEvent e >>= f).run t = (f ()).run { t with events := t.events ++ [e] } := rfl

abbrev readPages (left page : Nat) (acc : List Json) : StateM Trace (Except Failure (List Json)) :=
  fetchPages (scriptedSend script) logEvent endpoint params perPage ceiling left page acc

/-- One page read: the request goes out, a failure ends the reading, and a page is logged and
then ends the reading or leads to the next one. -/
theorem readPages_succ (left page : Nat) (acc : List Json) (t : Trace)
    (counted : t.sent.length + 1 = page) :
    (readPages script endpoint params perPage ceiling (left + 1) page acc).run t =
      let t₁ : Trace := { t with sent := t.sent ++ [(.get, endpoint, pageQuery params perPage page)] }
      match script page with
      | .error e => (.error e, t₁)
      | .ok r =>
        let t₂ : Trace :=
          { t₁ with events := t₁.events ++ [.pageFetched endpoint page (pageItems r.body).length] }
        if (pageItems r.body).isEmpty then (.ok acc, t₂)
        else if !r.hasNext then (.ok (acc ++ pageItems r.body), t₂)
        else if page ≥ ceiling then
          (.ok (acc ++ pageItems r.body),
            { t₂ with events := t₂.events ++ [.pageLimitReached endpoint ceiling] })
        else (readPages script endpoint params perPage ceiling left (page + 1)
          (acc ++ pageItems r.body)).run t₂ := by
  subst counted
  rw [readPages, fetchPages, scriptedSend_bind]
  cases script (t.sent.length + 1) with
  | error e => rfl
  | ok r =>
    dsimp only
    rw [logEvent_bind]
    by_cases empty : (pageItems r.body).isEmpty
    · rw [if_pos empty, if_pos empty]
      rfl
    · rw [if_neg empty, if_neg empty]
      by_cases last : (!r.hasNext) = true
      · rw [if_pos last, if_pos last]
        rfl
      · rw [if_neg last, if_neg last]
        by_cases full : t.sent.length + 1 ≥ ceiling
        · rw [if_pos full, if_pos full]
          rfl
        · rw [if_neg full, if_neg full]
          rfl

/-- A page with items that advertises a next page, below the ceiling, leads to the next page. -/
theorem readPages_goes_on (left page : Nat) (acc : List Json) (t : Trace)
    (counted : t.sent.length + 1 = page) {r : Response} (answer : script page = .ok r)
    (going : endsReading (.ok r) = false) (low : page < ceiling) :
    (readPages script endpoint params perPage ceiling (left + 1) page acc).run t =
      (readPages script endpoint params perPage ceiling left (page + 1) (acc ++ pageItems r.body)).run
        { sent := t.sent ++ [(.get, endpoint, pageQuery params perPage page)]
          events := t.events ++ [.pageFetched endpoint page (pageItems r.body).length] } := by
  simp only [endsReading, Bool.or_eq_false_iff, Bool.not_eq_false'] at going
  obtain ⟨full, next⟩ := going
  rw [readPages_succ script endpoint params perPage ceiling left page acc t counted, answer]
  dsimp only
  rw [if_neg (by simp [full]), if_neg (by simp [next]), if_neg (by omega)]

/-- Reading on from a page, when every page up to `k` is a page, none before `k` ends the
reading, and `k` ends it or is the ceiling: pages up to `k` are read and nothing after. -/
theorem readPages_reads_to {k : Nat} (below : k ≤ ceiling)
    (pages : ∀ p, 1 ≤ p → p ≤ k → isPage (script p) = true)
    (goesOn : ∀ p, 1 ≤ p → p < k → endsReading (script p) = false)
    (stops : endsReading (script k) = true ∨ k = ceiling) :
    ∀ n page left acc t, 1 ≤ page → page + n = k → page + left = ceiling + 1 →
      t.sent.length + 1 = page →
      (readPages script endpoint params perPage ceiling left page acc).run t =
        (.ok (acc ++ (List.range' page (n + 1)).flatMap (answerItems ∘ script)),
          { sent := t.sent ++ pageRequests endpoint params perPage (List.range' page (n + 1))
            events := t.events ++ pagesFetched script endpoint (List.range' page (n + 1)) ++
              if k = ceiling ∧ endsReading (script k) = false then
                [.pageLimitReached endpoint ceiling] else [] }) := by
  intro n
  induction n with
  | zero =>
    intro page left acc t first last fuel counted
    obtain ⟨left, rfl⟩ : ∃ l, left = l + 1 := ⟨left - 1, by omega⟩
    have atK : page = k := by omega
    subst atK
    rw [readPages_succ script endpoint params perPage ceiling left page acc t counted]
    obtain ⟨r, answer⟩ := exists_of_isPage (pages page first (Nat.le_refl page))
    rw [answer]
    dsimp only
    by_cases empty : (pageItems r.body).isEmpty
    · rw [if_pos empty]
      simp [answer, answerItems, endsReading, pageRequests, pagesFetched,
        List.isEmpty_iff.mp empty]
    · rw [if_neg empty]
      by_cases last : (!r.hasNext) = true
      · rw [if_pos last]
        simp [answer, answerItems, endsReading, pageRequests, pagesFetched, last]
      · rw [if_neg last]
        -- a page that goes on can only be the last one read at the ceiling
        have top : page = ceiling := by
          rcases stops with ends | top
          · simp [answer, endsReading, empty, last] at ends
          · exact top
        subst top
        rw [if_pos (Nat.le_refl page)]
        simp [answer, answerItems, endsReading, pageRequests, pagesFetched, empty, last]
  | succ n ih =>
    intro page left acc t first last fuel counted
    obtain ⟨left, rfl⟩ : ∃ l, left = l + 1 := ⟨left - 1, by omega⟩
    obtain ⟨r, answer⟩ := exists_of_isPage (pages page first (by omega))
    rw [readPages_goes_on script endpoint params perPage ceiling left page acc t counted answer
        (answer ▸ goesOn page first (by omega)) (by omega),
      ih (page + 1) left _ _ (by omega) (by omega) (by omega) (by simp [counted])]
    simp [List.range'_succ, answer, answerItems, pageRequests, pagesFetched]

/-- Reading on from a page, when every page before `j` is a page that goes on and `j` is a
failure below the ceiling: pages up to `j` are asked for and the failure comes back as it was. -/
theorem readPages_fails_at {j : Nat} {e : Failure} (below : j ≤ ceiling)
    (pages : ∀ p, 1 ≤ p → p < j → isPage (script p) = true ∧ endsReading (script p) = false)
    (failed : script j = .error e) :
    ∀ n page left acc t, 1 ≤ page → page + n = j → page + left = ceiling + 1 →
      t.sent.length + 1 = page →
      (readPages script endpoint params perPage ceiling left page acc).run t =
        (.error e, { sent := t.sent ++ pageRequests endpoint params perPage (List.range' page (n + 1))
                     events := t.events ++ pagesFetched script endpoint (List.range' page n) }) := by
  intro n
  induction n with
  | zero =>
    intro page left acc t first last fuel counted
    obtain ⟨left, rfl⟩ : ∃ l, left = l + 1 := ⟨left - 1, by omega⟩
    have atJ : page = j := by omega
    subst atJ
    rw [readPages_succ script endpoint params perPage ceiling left page acc t counted, failed]
    simp [pageRequests, pagesFetched]
  | succ n ih =>
    intro page left acc t first last fuel counted
    obtain ⟨left, rfl⟩ : ∃ l, left = l + 1 := ⟨left - 1, by omega⟩
    obtain ⟨isPg, going⟩ := pages page first (by omega)
    obtain ⟨r, answer⟩ := exists_of_isPage isPg
    rw [readPages_goes_on script endpoint params perPage ceiling left page acc t counted answer
        (answer ▸ going) (by omega),
      ih (page + 1) left _ _ (by omega) (by omega) (by omega) (by simp [counted])]
    simp [List.range'_succ, answer, answerItems, pageRequests, pagesFetched]

end Loop

/-- Pagination law: pages `1` to `k` are asked for in order, `k` the first page that ends the
listing, the ceiling, or the first failure, which comes back as it was. -/
theorem fetchAll_reads_pages (script : Nat → Except Failure Response) (endpoint : String)
    (params : Params) (perPage maxPages k : Nat) (first : 1 ≤ k) (ceiling : k ≤ max 1 maxPages)
    (goesOn : ∀ p, 1 ≤ p → p < k → endsReading (script p) = false)
    (stops : endsReading (script k) = true ∨ k = max 1 maxPages) :
    ((∀ p, 1 ≤ p → p ≤ k → isPage (script p) = true) →
      (fetchAll (scriptedSend script) logEvent endpoint params perPage maxPages).run {} =
        (.ok ((List.range' 1 k).flatMap (answerItems ∘ script)),
          { sent := pageRequests endpoint params (max 1 perPage) (List.range' 1 k)
            events := pagesFetched script endpoint (List.range' 1 k) ++
              if k = max 1 maxPages ∧ endsReading (script k) = false then
                [.pageLimitReached endpoint (max 1 maxPages)] else [] })) ∧
    ∀ j e, 1 ≤ j → j ≤ k → script j = .error e →
      (∀ p, 1 ≤ p → p < j → isPage (script p) = true) →
      (fetchAll (scriptedSend script) logEvent endpoint params perPage maxPages).run {} =
        (.error e, { sent := pageRequests endpoint params (max 1 perPage) (List.range' 1 j)
                     events := pagesFetched script endpoint (List.range' 1 (j - 1)) }) := by
  -- `fetchAll` is the loop from page 1 with the ceiling as its fuel
  constructor
  · intro pages
    have read := readPages_reads_to script endpoint params (max 1 perPage) (max 1 maxPages) ceiling
      pages goesOn stops (k - 1) 1 (max 1 maxPages) [] {} (Nat.le_refl 1) (by omega) (by omega) rfl
    rw [show k - 1 + 1 = k by omega] at read
    rw [fetchAll]
    simpa using read
  · intro j e low high failed before
    have read := readPages_fails_at script endpoint params (max 1 perPage) (max 1 maxPages)
      (by omega) (fun p low' high' => ⟨before p low' high', goesOn p low' (by omega)⟩) failed
      (j - 1) 1 (max 1 maxPages) [] {} (Nat.le_refl 1) (by omega) (by omega) rfl
    rw [show j - 1 + 1 = j by omega] at read
    rw [fetchAll]
    simpa using read

/-- A tracker that never runs out of pages, read with a ceiling of three pages: three pages are
read, and the ceiling is reported. -/
theorem fetchAll_reads_pages_at_ceiling :
    let script : Nat → Except Failure Response :=
      fun p => .ok { body := .arr [Json.ofNat p], hasNext := true }
    (1 ≤ 3 ∧ 3 ≤ max 1 3 ∧ (∀ p, 1 ≤ p → p < 3 → endsReading (script p) = false) ∧
      (endsReading (script 3) = true ∨ 3 = max 1 3)) ∧
    (fetchAll (scriptedSend script) logEvent "issues" [] 100 3).run {} =
      (.ok [Json.ofNat 1, Json.ofNat 2, Json.ofNat 3],
        { sent := pageRequests "issues" [] 100 [1, 2, 3]
          events := [.pageFetched "issues" 1 1, .pageFetched "issues" 2 1, .pageFetched "issues" 3 1,
            .pageLimitReached "issues" 3] }) := by
  intro script
  have goesOn : ∀ p, 1 ≤ p → p < 3 → endsReading (script p) = false := fun _ _ _ => rfl
  refine ⟨⟨by decide, by decide, goesOn, .inr rfl⟩, ?_⟩
  rw [(fetchAll_reads_pages script "issues" [] 100 3 3 (by decide) (by decide) goesOn (.inr rfl)).1
    (fun _ _ _ => rfl)]
  rfl

end TrackerSync.Remote
