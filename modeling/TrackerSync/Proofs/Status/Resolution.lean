import TrackerSync.Proofs.Text.Case

/-!
Status resolution, and the suggestion for an unknown status: whatever order the candidates
are scanned in, it names the statuses of the nearest candidates within three edits.
-/

namespace TrackerSync

def Suggestion.statuses : Suggestion → List String
  | .none => []
  | .one s => [s]
  | .oneOf ss => ss

namespace Status

theorem shownOf_candidate : ∀ c ∈ candidates, shownOf c.1 = c.2 := by
  decide

theorem synonym_target_unique :
    ∀ p ∈ statusSynonyms, ∀ q ∈ statusSynonyms, p.1 = q.1 → p.2 = q.2 := by
  decide

theorem synonym_not_canonical : ∀ p ∈ statusSynonyms, p.1 ∉ canonicalStatuses := by
  decide

/-- What a scan over the candidates `seen` has found: nothing exactly when none is within three
edits, else the status shown by a nearest candidate and its distance. -/
structure Scanned (k : String) (seen : List String) (best : Option (String × Nat)) : Prop where
  none_iff : best = none ↔ ∀ v ∈ seen, 3 < Text.distance k v
  within : ∀ s e, best = some (s, e) → e ≤ 3
  least : ∀ s e, best = some (s, e) → ∀ v ∈ seen, e ≤ Text.distance k v
  found : ∀ s e, best = some (s, e) → ∃ v ∈ seen, Text.distance k v = e ∧ shownOf v = s

theorem Scanned.start (k : String) : Scanned k [] none where
  none_iff := by simp
  within := by simp
  least := by simp
  found := by simp

theorem Scanned.step {k : String} {seen : List String} {best : Option (String × Nat)}
    (h : Scanned k seen best) (v : String) :
    Scanned k (seen ++ [v]) (scanStep k best v) := by
  unfold scanStep
  by_cases closer : Text.distance k v ≤ 3 ∧ best.all (fun b => Text.distance k v < b.2)
  · obtain ⟨near, beats⟩ := closer
    rw [if_pos (by simp [near, beats])]
    refine ⟨⟨nofun, fun far => absurd (far v (by simp)) (by omega)⟩, ?_, ?_, ?_⟩
    · rintro s e ⟨⟩
      exact near
    · rintro s e ⟨⟩ u seenU
      rcases (by simpa using seenU : u ∈ seen ∨ u = v) with before | rfl
      · cases hb : best with
        | none => exact (Nat.lt_of_le_of_lt near ((h.none_iff.mp hb) u before)).le
        | some b =>
          rw [hb] at beats
          have := h.least b.1 b.2 hb u before
          simp at beats
          omega
      · exact le_rfl
    · rintro s e ⟨⟩
      exact ⟨v, by simp, rfl, rfl⟩
  · rw [if_neg (by simpa using closer)]
    refine ⟨?_, h.within, ?_, ?_⟩
    · constructor
      · intro hb u seenU
        rcases (by simpa using seenU : u ∈ seen ∨ u = v) with before | rfl
        · exact h.none_iff.mp hb u before
        · by_contra far
          exact closer ⟨by omega, by simp [hb]⟩
      · intro far
        exact h.none_iff.mpr fun u before => far u (by simp [before])
    · intro s e hb u seenU
      rcases (by simpa using seenU : u ∈ seen ∨ u = v) with before | rfl
      · exact h.least s e hb u before
      · by_contra nearer
        exact closer ⟨by have := h.within s e hb; omega, by simp [hb]; omega⟩
    · intro s e hb
      obtain ⟨u, before, dist, shown⟩ := h.found s e hb
      exact ⟨u, by simp [before], dist, shown⟩

theorem Scanned.foldl {k : String} {seen : List String} {best : Option (String × Nat)}
    (h : Scanned k seen best) (rest : List String) :
    Scanned k (seen ++ rest) (rest.foldl (scanStep k) best) := by
  induction rest generalizing seen best with
  | nil => simpa using h
  | cons v rest ih =>
    simpa using ih (h.step v)


def scored (k : String) : List (Nat × String) :=
  candidates.filterMap fun (c, shown) =>
    let d := Text.distance k c
    if d ≤ 3 then some (d, shown) else Option.none

theorem mem_scored {k : String} {e : Nat} {s : String} :
    (e, s) ∈ scored k ↔ ∃ c ∈ candidates, c.2 = s ∧ Text.distance k c.1 = e ∧ e ≤ 3 := by
  simp only [scored, List.mem_filterMap, Option.ite_none_right_eq_some, Option.some.injEq,
    Prod.mk.injEq]
  constructor
  · rintro ⟨c, mem, near, rfl, rfl⟩
    exact ⟨c, mem, rfl, rfl, near⟩
  · rintro ⟨c, mem, rfl, rfl, near⟩
    exact ⟨c, mem, near, rfl, rfl⟩

theorem mem_insertSorted {v s : String} {l : List String} :
    v ∈ insertSorted s l ↔ v = s ∨ v ∈ l := by
  induction l with
  | nil => simp [insertSorted]
  | cons t ts ih =>
    unfold insertSorted
    split
    · simp
    · split
      · next same =>
        rw [beq_iff_eq] at same
        subst same
        simp
      · rw [List.mem_cons, List.mem_cons, ih, or_left_comm]

theorem mem_foldr_insertSorted {v : String} {l : List (Nat × String)} :
    v ∈ l.foldr (fun (_, s) acc => insertSorted s acc) [] ↔ v ∈ l.map Prod.snd := by
  induction l with
  | nil => simp
  | cons p l ih => simp [mem_insertSorted, ih]

theorem suggest_eq (k : String) :
    suggest k = match ((scored k).map (·.1)).min? with
      | Option.none => .none
      | some best =>
        match ((scored k).filter (·.1 == best)).foldr (fun (_, s) acc => insertSorted s acc) [] with
        | [s] => .one s
        | ss => .oneOf ss := rfl

theorem statuses_suggest (k : String) :
    (suggest k).statuses = match ((scored k).map (·.1)).min? with
      | Option.none => []
      | some best =>
        ((scored k).filter (·.1 == best)).foldr (fun (_, s) acc => insertSorted s acc) [] := by
  rw [suggest_eq]
  split
  · rfl
  · split
    · next single => exact single.symm
    · rfl

def Nearest (k : String) (c : String × String) : Prop :=
  Text.distance k c.1 ≤ 3 ∧ ∀ c' ∈ candidates, Text.distance k c.1 ≤ Text.distance k c'.1

theorem scored_map_eq_nil_iff (k : String) :
    (scored k).map (·.1) = [] ↔ ∀ c ∈ candidates, 3 < Text.distance k c.1 := by
  rw [List.map_eq_nil_iff, List.eq_nil_iff_forall_not_mem]
  constructor
  · intro empty c mem
    by_contra near
    exact empty (_, c.2) (mem_scored.mpr ⟨c, mem, rfl, rfl, by omega⟩)
  · rintro far ⟨e, s⟩ mem
    obtain ⟨c, cmem, -, rfl, near⟩ := mem_scored.mp mem
    have := far c cmem
    omega

theorem suggest_eq_none_iff (k : String) :
    suggest k = .none ↔ ∀ c ∈ candidates, 3 < Text.distance k c.1 := by
  rw [← scored_map_eq_nil_iff, ← List.min?_eq_none_iff, suggest_eq]
  split
  · next empty => simp [empty]
  · next best found =>
    rw [found]
    constructor
    · intro h
      split at h <;> cases h
    · intro h
      cases h

theorem mem_statuses_suggest {k v : String} :
    v ∈ (suggest k).statuses ↔ ∃ c ∈ candidates, c.2 = v ∧ Nearest k c := by
  rw [statuses_suggest]
  split
  · next empty =>
    have far := (scored_map_eq_nil_iff k).mp (List.min?_eq_none_iff.mp empty)
    simp only [List.not_mem_nil, false_iff]
    rintro ⟨c, mem, -, near, -⟩
    have := far c mem
    omega
  · next best found =>
    obtain ⟨bestScored, bestLeast⟩ := List.min?_eq_some_iff.mp found
    obtain ⟨⟨e, s⟩, bestMem, rfl⟩ := List.mem_map.mp bestScored
    obtain ⟨b, bMem, -, bDist, -⟩ := mem_scored.mp bestMem
    rw [mem_foldr_insertSorted]
    simp only [List.mem_map, List.mem_filter, beq_iff_eq]
    constructor
    · rintro ⟨⟨e', s'⟩, ⟨mem, rfl⟩, rfl⟩
      obtain ⟨c, cMem, rfl, cDist, near⟩ := mem_scored.mp mem
      refine ⟨c, cMem, rfl, near.trans' (le_of_eq cDist), fun c' c'Mem => ?_⟩
      by_cases within : Text.distance k c'.1 ≤ 3
      · exact cDist ▸ bestLeast _ (List.mem_map_of_mem (mem_scored.mpr ⟨c', c'Mem, rfl, rfl, within⟩))
      · omega
    · rintro ⟨c, cMem, rfl, near, least⟩
      have cScored := mem_scored.mpr ⟨c, cMem, rfl, rfl, near⟩
      have atBest : Text.distance k c.1 = e := by
        have := bestLeast _ (List.mem_map_of_mem cScored)
        have := least b bMem
        omega
      exact ⟨_, ⟨cScored, atBest⟩, rfl⟩

theorem candidates_keys :
    candidates.map Prod.fst = canonicalStatuses ++ statusSynonyms.map Prod.fst := by
  simp [candidates, Function.comp_def]

theorem scanned_orders (k : String) (valid synonyms : List String) :
    Scanned k (valid ++ synonyms) ((valid ++ synonyms).foldl (scanStep k) none) :=
  (Scanned.start k).foldl (valid ++ synonyms)

section Orders

variable {valid synonyms : List String} (setOrder : valid.Perm canonicalStatuses)
  (mapOrder : synonyms.Perm (statusSynonyms.map Prod.fst))
include setOrder mapOrder

theorem mem_orders_iff {v : String} : v ∈ valid ++ synonyms ↔ ∃ c ∈ candidates, c.1 = v := by
  rw [← List.mem_map, candidates_keys]
  exact (setOrder.append mapOrder).mem_iff

theorem closestMatch_eq_none_iff (k : String) :
    closestMatch k valid synonyms = none ↔ ∀ c ∈ candidates, 3 < Text.distance k c.1 := by
  rw [closestMatch, Option.map_eq_none_iff, (scanned_orders k valid synonyms).none_iff]
  constructor
  · intro far c mem
    exact far c.1 ((mem_orders_iff setOrder mapOrder).mpr ⟨c, mem, rfl⟩)
  · intro far v listed
    obtain ⟨c, mem, rfl⟩ := (mem_orders_iff setOrder mapOrder).mp listed
    exact far c mem

theorem closestMatch_nearest {k s : String} (found : closestMatch k valid synonyms = some s) :
    ∃ c ∈ candidates, c.2 = s ∧ Nearest k c := by
  obtain ⟨⟨s', e⟩, best, rfl⟩ := Option.map_eq_some_iff.mp found
  have scan := scanned_orders k valid synonyms
  obtain ⟨v, listed, dist, shown⟩ := scan.found s' e best
  obtain ⟨c, mem, rfl⟩ := (mem_orders_iff setOrder mapOrder).mp listed
  refine ⟨c, mem, (shownOf_candidate c mem).symm.trans shown, dist ▸ scan.within s' e best, ?_⟩
  intro c' mem'
  exact dist ▸ scan.least s' e best c'.1 ((mem_orders_iff setOrder mapOrder).mpr ⟨c', mem', rfl⟩)

end Orders

theorem lookup_synonym {k t : String} (listed : (k, t) ∈ statusSynonyms) : lookup k = some t := by
  have fresh : k ∉ canonicalStatuses := synonym_not_canonical _ listed
  unfold lookup
  rw [if_neg (fun h => fresh (List.contains_iff_mem.mp h))]
  cases found : statusSynonyms.find? (·.1 == k) with
  | none =>
    exact absurd (List.find?_eq_none.mp found _ listed) (by simp)
  | some p =>
    have sameKey : p.1 = k := by simpa using List.find?_some found
    simp only [Option.map_some, Option.some.injEq]
    exact synonym_target_unique p (List.mem_of_find?_eq_some found) _ listed sameKey

theorem lookup_unknown {k : String} (notCanonical : k ∉ canonicalStatuses)
    (notSynonym : k ∉ statusSynonyms.map Prod.fst) : lookup k = none := by
  unfold lookup
  rw [if_neg (fun h => notCanonical (List.contains_iff_mem.mp h)), Option.map_eq_none_iff,
    List.find?_eq_none]
  intro p listed same
  exact notSynonym (List.mem_map.mpr ⟨p, listed, by simpa using same⟩)

theorem resolve_of_lookup_some {x s : String} (found : lookup (key x) = some s) :
    resolve x = .ok s := by
  unfold resolve
  dsimp only
  rw [found]

theorem resolve_of_lookup_none {x : String} (found : lookup (key x) = none) :
    resolve x = .error (x, suggest (key x)) := by
  unfold resolve
  dsimp only
  rw [found]

theorem canonical_of_lookup_some {x s : String} (found : lookup (key x) = some s) :
    canonical x = s := by
  unfold canonical
  rw [found]

theorem canonical_of_lookup_none {x : String} (found : lookup (key x) = none) :
    canonical x = key x := by
  unfold canonical
  rw [found]

/-- The canonical form of a status is stable: it is its own canonical form. A key that is a
canonical status stands for itself and a synonym for its target, so either way the canonical form
is one of the six statuses; any other key is kept as it is. -/
theorem canonical_form_is_stable (x : String) :
    canonical (canonical x) = canonical x ∧
    (key x ∈ canonicalStatuses → canonical x = key x) ∧
    (∀ t, (key x, t) ∈ statusSynonyms → canonical x = t) ∧
    (key x ∈ canonicalStatuses ∨ key x ∈ statusSynonyms.map Prod.fst →
      canonical x ∈ canonicalStatuses) ∧
    (key x ∉ canonicalStatuses → key x ∉ statusSynonyms.map Prod.fst → canonical x = key x) := by
  refine ⟨canonical_canonical x, fun listed => canonical_of_lookup_some (lookup_canonical listed),
    fun _ listed => canonical_of_lookup_some (lookup_synonym listed), fun known => ?_,
    fun notCanonical notSynonym => canonical_of_lookup_none (lookup_unknown notCanonical notSynonym)⟩
  -- a known key is looked up to one of the six statuses
  obtain ⟨s, found⟩ : ∃ s, lookup (key x) = some s := by
    rcases known with listed | synonym
    · exact ⟨_, lookup_canonical listed⟩
    · obtain ⟨p, listed, named⟩ := List.mem_map.mp synonym
      exact ⟨p.2, lookup_synonym (named ▸ listed)⟩
  rw [canonical_of_lookup_some found]
  exact lookup_mem found

/-- Resolving a status: a canonical key is itself, a synonym its target, anything else an error
whose suggestion lists the statuses of the nearest candidates, whatever the scan's order. -/
theorem status_resolution_law (x : String) (valid synonyms : List String)
    (setOrder : valid.Perm canonicalStatuses)
    (mapOrder : synonyms.Perm (statusSynonyms.map Prod.fst)) :
    (resolve x = .ok (key x) ↔ key x ∈ canonicalStatuses) ∧
    (∀ t, (key x, t) ∈ statusSynonyms → resolve x = .ok t) ∧
    (key x ∉ canonicalStatuses → key x ∉ statusSynonyms.map Prod.fst →
      resolve x = .error (x, suggest (key x))) ∧
    (closestMatch (key x) valid synonyms = none ↔
      ∀ c ∈ candidates, 3 < Text.distance (key x) c.1) ∧
    (∀ s, closestMatch (key x) valid synonyms = some s →
      ∃ c ∈ candidates, c.2 = s ∧ Nearest (key x) c) ∧
    (suggest (key x) = .none ↔ ∀ c ∈ candidates, 3 < Text.distance (key x) c.1) ∧
    (∀ s, s ∈ (suggest (key x)).statuses ↔ ∃ c ∈ candidates, c.2 = s ∧ Nearest (key x) c) := by
  refine ⟨⟨?_, fun listed => resolve_of_lookup_some (lookup_canonical listed)⟩,
    fun _ listed => resolve_of_lookup_some (lookup_synonym listed),
    fun notCanonical notSynonym => resolve_of_lookup_none (lookup_unknown notCanonical notSynonym),
    closestMatch_eq_none_iff setOrder mapOrder _,
    fun _ found => closestMatch_nearest setOrder mapOrder found, suggest_eq_none_iff _,
    fun _ => mem_statuses_suggest⟩
  intro resolved
  cases found : lookup (key x) with
  | some c =>
    rw [resolve_of_lookup_some found] at resolved
    rw [← Except.ok.inj resolved]
    exact lookup_mem found
  | none =>
    rw [resolve_of_lookup_none found] at resolved
    simp at resolved

theorem status_resolution_law_in_reversed_orders :
    canonicalStatuses.reverse.Perm canonicalStatuses ∧
      (statusSynonyms.map Prod.fst).reverse.Perm (statusSynonyms.map Prod.fst) ∧
      ((resolve " Donee" = .ok (key " Donee") ↔ key " Donee" ∈ canonicalStatuses) ∧
      (∀ t, (key " Donee", t) ∈ statusSynonyms → resolve " Donee" = .ok t) ∧
      (key " Donee" ∉ canonicalStatuses → key " Donee" ∉ statusSynonyms.map Prod.fst →
        resolve " Donee" = .error (" Donee", suggest (key " Donee"))) ∧
      (closestMatch (key " Donee") canonicalStatuses.reverse (statusSynonyms.map Prod.fst).reverse =
          none ↔ ∀ c ∈ candidates, 3 < Text.distance (key " Donee") c.1) ∧
      (∀ s, closestMatch (key " Donee") canonicalStatuses.reverse
          (statusSynonyms.map Prod.fst).reverse = some s →
        ∃ c ∈ candidates, c.2 = s ∧ Nearest (key " Donee") c) ∧
      (suggest (key " Donee") = .none ↔ ∀ c ∈ candidates, 3 < Text.distance (key " Donee") c.1) ∧
      (∀ s, s ∈ (suggest (key " Donee")).statuses ↔
        ∃ c ∈ candidates, c.2 = s ∧ Nearest (key " Donee") c)) :=
  ⟨List.reverse_perm _, List.reverse_perm _,
    status_resolution_law " Donee" _ _ (List.reverse_perm _) (List.reverse_perm _)⟩

end Status

end TrackerSync
