/-!
Finite maps from texts, kept as entries with strictly increasing keys.
-/

namespace TrackerSync

/-- A finite map from texts to values, its entries in increasing key order. -/
structure Table (ν : Type) where
  entries : List (String × ν)
  ordered : (entries.map (·.1)).Pairwise (· < ·)
  deriving Repr

namespace Table

variable {ν : Type}

def empty : Table ν := ⟨[], List.Pairwise.nil⟩

instance : EmptyCollection (Table ν) := ⟨empty⟩

@[simp] theorem entries_empty : (∅ : Table ν).entries = [] := rfl

instance : Inhabited (Table ν) := ⟨empty⟩

/-- Insert into entries in key order; an entry of the same key is replaced. -/
def insertEntry : List (String × ν) → String → ν → List (String × ν)
  | [], k, v => [(k, v)]
  | (k', v') :: rest, k, v =>
    if k < k' then (k, v) :: (k', v') :: rest
    else if k == k' then (k, v) :: rest
    else (k', v') :: insertEntry rest k v

theorem mem_insertEntry {entries : List (String × ν)} {k : String} {v : ν} {p : String × ν}
    (mem : p ∈ insertEntry entries k v) : p = (k, v) ∨ p ∈ entries := by
  induction entries with
  | nil => simpa [insertEntry] using mem
  | cons entry rest ih =>
    obtain ⟨key, value⟩ := entry
    unfold insertEntry at mem
    split at mem
    · simpa using mem
    · split at mem
      · rcases List.mem_cons.mp mem with here | there
        · exact .inl here
        · exact .inr (List.mem_cons_of_mem _ there)
      · rcases List.mem_cons.mp mem with here | there
        · exact .inr (here ▸ List.mem_cons_self ..)
        · rcases ih there with new | old
          · exact .inl new
          · exact .inr (List.mem_cons_of_mem _ old)

/-- Inserting keeps the keys increasing: a key below the first goes in front, one equal to it
replaces it, and one above it is inserted further on, still above it. -/
theorem insertEntry_ordered {entries : List (String × ν)} (k : String) (v : ν)
    (ordered : (entries.map (·.1)).Pairwise (· < ·)) :
    ((insertEntry entries k v).map (·.1)).Pairwise (· < ·) := by
  induction entries with
  | nil => simp [insertEntry]
  | cons entry rest ih =>
    obtain ⟨key, value⟩ := entry
    simp only [List.map_cons, List.pairwise_cons, List.mem_map] at ordered
    obtain ⟨above, restOrdered⟩ := ordered
    unfold insertEntry
    split
    · next before =>
      simp only [List.map_cons, List.pairwise_cons, List.mem_cons, List.mem_map]
      refine ⟨?_, ?_, restOrdered⟩
      · rintro x (rfl | ⟨p, mem, rfl⟩)
        · exact before
        · exact String.lt_trans before (above p.1 ⟨p, mem, rfl⟩)
      · rintro x ⟨p, mem, rfl⟩
        exact above p.1 ⟨p, mem, rfl⟩
    · split
      · next same =>
        have same : k = key := by simpa using same
        subst same
        simp only [List.map_cons, List.pairwise_cons, List.mem_map]
        exact ⟨above, restOrdered⟩
      · next before differs =>
        have after : key < k := by
          have other : k ≠ key := by simpa using differs
          refine Decidable.byContradiction fun notAfter => other ?_
          exact String.le_antisymm (String.not_lt.mp notAfter) (String.not_lt.mp before)
        simp only [List.map_cons, List.pairwise_cons, List.mem_map]
        refine ⟨?_, ih restOrdered⟩
        rintro x ⟨p, mem, rfl⟩
        rcases mem_insertEntry mem with rfl | old
        · exact after
        · exact above p.1 ⟨p, old, rfl⟩

def get? (t : Table ν) (k : String) : Option ν := (t.entries.find? (·.1 == k)).map (·.2)

def contains (t : Table ν) (k : String) : Bool := t.entries.any (·.1 == k)

def insert (t : Table ν) (k : String) (v : ν) : Table ν :=
  ⟨insertEntry t.entries k v, insertEntry_ordered k v t.ordered⟩

def erase (t : Table ν) (k : String) : Table ν :=
  ⟨t.entries.filter (·.1 != k), t.ordered.sublist (List.filter_sublist.map _)⟩

def keys (t : Table ν) : List String := t.entries.map (·.1)

def values (t : Table ν) : List ν := t.entries.map (·.2)

def size (t : Table ν) : Nat := t.entries.length

def isEmpty (t : Table ν) : Bool := t.entries.isEmpty

/-- A table of entries in any order; a later entry of a key wins. -/
def ofList (entries : List (String × ν)) : Table ν :=
  entries.foldl (fun t (k, v) => t.insert k v) {}

/-- Change the value of a key by `f`, starting from `d` when it has none. -/
def modify (t : Table ν) (k : String) (d : ν) (f : ν → ν) : Table ν :=
  t.insert k (f ((t.get? k).getD d))

end Table

end TrackerSync
