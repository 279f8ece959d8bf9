import TrackerSync.Sync.Links

/-!
What a batch leaves in the store, key by key.
-/

namespace TrackerSync

namespace Table

variable {ν : Type}

theorem find?_insertEntry (entries : List (String × ν)) (k k' : String) (v : ν) :
    ((insertEntry entries k v).find? (·.1 == k')).map (·.2) =
      if k = k' then some v else (entries.find? (·.1 == k')).map (·.2) := by
  induction entries with
  | nil => by_cases same : k = k' <;> simp [insertEntry, same]
  | cons entry rest ih =>
    obtain ⟨key, value⟩ := entry
    by_cases before : k < key
    · rw [insertEntry, if_pos before]
      by_cases same : k = k' <;> simp [same]
    · by_cases replaces : k = key
      · subst replaces
        rw [insertEntry, if_neg before, if_pos (beq_self_eq_true k)]
        by_cases same : k = k' <;> simp [same]
      · rw [insertEntry, if_neg before, if_neg (by simpa using replaces), List.find?_cons,
          List.find?_cons]
        by_cases here : key = k'
        · subst here
          simp [replaces]
        · have skip : (key == k') = false := by simpa using here
          simp only [skip, ih]

@[simp] theorem get?_insert (t : Table ν) (k k' : String) (v : ν) :
    (t.insert k v).get? k' = if k = k' then some v else t.get? k' :=
  find?_insertEntry t.entries k k' v

@[simp] theorem get?_erase (t : Table ν) (k k' : String) :
    (t.erase k).get? k' = if k = k' then none else t.get? k' := by
  simp only [get?, erase]
  by_cases same : k = k'
  · subst same
    simp [List.find?_filter, List.find?_eq_none]
  · simp only [same, if_false]
    congr 1
    induction t.entries with
    | nil => rfl
    | cons entry rest ih =>
      rw [List.filter_cons]
      by_cases kept : entry.1 = k
      · have dropped : (entry.1 != k) = false := by simp [kept]
        have skip : (entry.1 == k') = false := by simpa [kept] using same
        simp only [dropped, if_false, Bool.false_eq_true, List.find?_cons, skip, ih]
      · have stays : (entry.1 != k) = true := by simpa using kept
        simp only [stays, if_true, List.find?_cons, ih]

end Table

namespace Write

def onKey (w : Write) (ns key : String) (before : Option String) : Option String :=
  match w with
  | .put ns' key' value => if ns' = ns ∧ key' = key then some value else before
  | .delete ns' key' => if ns' = ns ∧ key' = key then none else before
  | .require _ _ _ => before

def onKeyAll (ws : List Write) (ns key : String) (before : Option String) : Option String :=
  ws.foldl (fun held w => w.onKey ns key held) before

theorem onKeyAll_filter_require (ws : List Write) (ns key : String) (before : Option String) :
    onKeyAll (ws.filter fun w => !w.isRequire) ns key before = onKeyAll ws ns key before := by
  induction ws generalizing before with
  | nil => rfl
  | cons w rest ih =>
    cases w with
    | require _ _ _ => simp only [List.filter_cons, isRequire, onKeyAll, List.foldl_cons] at ih ⊢; exact ih _
    | put _ _ _ => simp only [List.filter_cons, isRequire, onKeyAll, List.foldl_cons] at ih ⊢; exact ih _
    | delete _ _ => simp only [List.filter_cons, isRequire, onKeyAll, List.foldl_cons] at ih ⊢; exact ih _

theorem onKeyAll_append (ws vs : List Write) (ns key : String) (before : Option String) :
    onKeyAll (ws ++ vs) ns key before = onKeyAll vs ns key (onKeyAll ws ns key before) :=
  List.foldl_append

theorem onKeyAll_append_delete (ws : List Write) (ns key : String) (before : Option String) :
    onKeyAll (ws ++ [.delete ns key]) ns key before = none := by
  simp [onKeyAll, onKey]

theorem onKey_of_ne {w : Write} {ns key : String} (other : w.target ≠ (ns, key))
    (before : Option String) : w.onKey ns key before = before := by
  cases w with
  | put ns₀ key₀ value =>
    have : ¬(ns₀ = ns ∧ key₀ = key) := fun ⟨a, b⟩ => other (by rw [target, a, b])
    simp [onKey, this]
  | delete ns₀ key₀ =>
    have : ¬(ns₀ = ns ∧ key₀ = key) := fun ⟨a, b⟩ => other (by rw [target, a, b])
    simp [onKey, this]
  | require _ _ _ => rfl

theorem onKeyAll_of_ne {ws : List Write} {ns key : String} (others : ∀ w ∈ ws, w.target ≠ (ns, key))
    (before : Option String) : onKeyAll ws ns key before = before := by
  induction ws generalizing before with
  | nil => rfl
  | cons w rest ih =>
    show onKeyAll rest ns key (w.onKey ns key before) = before
    rw [onKey_of_ne (others w (List.mem_cons_self ..)),
      ih fun v mem => others v (List.mem_cons_of_mem w mem)]

end Write

namespace Store

theorem get_eq_space (s : Store) (ns key : String) : s.get ns key = (s.space ns).get? key := by
  simp only [get, space]
  cases s.kv.get? ns <;> rfl

theorem get?_of_isEmpty {t : Table String} (empty : t.isEmpty = true) (key : String) :
    t.get? key = none := by
  obtain ⟨entries⟩ := t
  cases entries with
  | nil => rfl
  | cons _ _ => cases empty

theorem get_setSpace (s : Store) (ns : String) (t : Table String) (ns' key : String) :
    (s.setSpace ns t).get ns' key = if ns = ns' then t.get? key else s.get ns' key := by
  by_cases empty : t.isEmpty = true
  · by_cases same : ns = ns'
    · simp [setSpace, get, empty, same, get?_of_isEmpty empty]
    · simp [setSpace, get, empty, same]
  · by_cases same : ns = ns' <;> simp [setSpace, get, empty, same]

@[simp] theorem get_put (s : Store) (ns key value ns' key' : String) :
    (s.put ns key value).get ns' key' =
      if ns = ns' ∧ key = key' then some value else s.get ns' key' := by
  rw [put, get_setSpace, Table.get?_insert]
  by_cases same : ns = ns'
  · subst same
    by_cases here : key = key' <;> simp [here, get_eq_space]
  · simp [same]

@[simp] theorem get_remove (s : Store) (ns key ns' key' : String) :
    (s.remove ns key).2.get ns' key' = if ns = ns' ∧ key = key' then none else s.get ns' key' := by
  rw [remove, get_setSpace, Table.get?_erase]
  by_cases same : ns = ns'
  · subst same
    by_cases here : key = key' <;> simp [here, get_eq_space]
  · simp [same]

@[simp] theorem get_record (s : Store) (row : AuditRow) : (s.record row).get = s.get := by
  unfold record
  split <;> rfl

theorem applyWrite_get {s s' : Store} {w : Write} (applied : s.applyWrite w = .ok s')
    (ns key : String) : s'.get ns key = w.onKey ns key (s.get ns key) := by
  cases w with
  | put ns₀ key₀ value =>
    simp only [applyWrite] at applied
    split at applied <;> (try split at applied) <;> cases applied <;> simp [Write.onKey]
  | delete ns₀ key₀ =>
    simp only [applyWrite] at applied
    split at applied <;> cases applied <;> simp [Write.onKey]
  | require ns₀ key₀ value =>
    simp only [applyWrite] at applied
    split at applied <;> cases applied
    rfl

theorem applyWrites_get {s s' : Store} {ws : List Write} (applied : s.applyWrites ws = .ok s')
    (ns key : String) : s'.get ns key = Write.onKeyAll ws ns key (s.get ns key) := by
  induction ws generalizing s with
  | nil => cases applied; rfl
  | cons w rest ih =>
    simp only [applyWrites] at applied
    cases step : s.applyWrite w with
    | error e => rw [step] at applied; cases applied
    | ok s₁ =>
      rw [step] at applied
      rw [ih applied, applyWrite_get step]
      rfl

theorem commitBatch_get {s s' : Store} {ws : List Write} (committed : s.commitBatch ws = .ok s')
    (ns key : String) : s'.get ns key = Write.onKeyAll ws ns key (s.get ns key) := by
  unfold commitBatch at committed
  split at committed
  · exact applyWrites_get committed ns key
  · split at committed
    · cases committed
    · rw [applyWrites_get committed, Write.onKeyAll_filter_require]

theorem batchOn_get {s₀ s' : Store} {ws : List Write}
    (written : (if s₀.faults.failBatches then (s₀, some diskFull)
      else match s₀.commitBatch ws with
        | .ok s' => (s', none)
        | .error e => (s₀, some e)) = (s', none))
    (ns key : String) : s'.get ns key = Write.onKeyAll ws ns key (s₀.get ns key) := by
  split at written
  · cases written
  · split at written
    · rename_i committed
      cases written
      exact commitBatch_get committed ns key
    · cases written

/-- After a batch that succeeds, each key holds what the batch's writes leave in it, starting
from the store the batch met (another writer's planted write may have landed first). -/
theorem writeBatch_get {s s' : Store} {ws : List Write} (written : s.writeBatch ws = (s', none)) :
    ∃ s₀ : Store, ∀ ns key, s'.get ns key = Write.onKeyAll ws ns key (s₀.get ns key) :=
  ⟨_, batchOn_get written⟩

/-- A batch that writes elsewhere leaves a key as it was, when no other writer's write is
planted. -/
theorem writeBatch_get_of_ne {s : Store} {ws : List Write} {ns key : String}
    (calm : s.faults.interference = none) (others : ∀ w ∈ ws, w.target ≠ (ns, key)) :
    (s.writeBatch ws).1.get ns key = s.get ns key := by
  unfold writeBatch
  simp only [calm]
  split
  · rfl
  · split
    · rename_i s' committed
      rw [commitBatch_get committed, Write.onKeyAll_of_ne others]
    · rfl

/-! Faults and failures. Writing keys never touches the planted faults; with no other writer's
write planted, a batch either fails and leaves the store as it was, or commits. -/

@[simp] theorem record_faults (s : Store) (row : AuditRow) : (s.record row).faults = s.faults := by
  unfold record
  split <;> rfl

theorem applyWrite_faults {s s' : Store} {w : Write} (applied : s.applyWrite w = .ok s') :
    s'.faults = s.faults := by
  cases w with
  | put ns key value =>
    simp only [applyWrite] at applied
    split at applied <;> (try split at applied) <;> cases applied <;> simp [put, setSpace]
  | delete ns key =>
    simp only [applyWrite] at applied
    split at applied <;> cases applied <;> simp [remove, setSpace]
  | require ns key value =>
    simp only [applyWrite] at applied
    split at applied <;> cases applied
    rfl

theorem applyWrites_faults {s s' : Store} {ws : List Write} (applied : s.applyWrites ws = .ok s') :
    s'.faults = s.faults := by
  induction ws generalizing s with
  | nil => cases applied; rfl
  | cons w rest ih =>
    simp only [applyWrites] at applied
    cases step : s.applyWrite w with
    | error e => rw [step] at applied; cases applied
    | ok s₁ =>
      rw [step] at applied
      rw [ih applied, applyWrite_faults step]

theorem commitBatch_faults {s s' : Store} {ws : List Write} (committed : s.commitBatch ws = .ok s') :
    s'.faults = s.faults := by
  unfold commitBatch at committed
  split at committed
  · exact applyWrites_faults committed
  · split at committed
    · cases committed
    · exact applyWrites_faults committed

section Calm

variable {s : Store} (calm : s.faults.interference = none) (ws : List Write)
include calm

theorem writeBatch_calm :
    s.writeBatch ws = if s.faults.failBatches then (s, some diskFull)
      else match s.commitBatch ws with
        | .ok s' => (s', none)
        | .error e => (s, some e) := by
  unfold writeBatch
  cases planted : s.faults.interference with
  | none => rfl
  | some w => cases calm.symm.trans planted

theorem writeBatch_failed {e : Error} (failed : (s.writeBatch ws).2 = some e) :
    (s.writeBatch ws).1 = s := by
  rw [writeBatch_calm calm] at failed ⊢
  split
  · rfl
  · rename_i notFailing
    rw [if_neg notFailing] at failed
    split
    · rename_i s' committed
      rw [committed] at failed
      cases failed
    · rfl

/-- After a batch the store is the one before or the one the batch committed. -/
theorem writeBatch_cases : (s.writeBatch ws).1 = s ∨ s.commitBatch ws = .ok (s.writeBatch ws).1 := by
  rw [writeBatch_calm calm]
  split
  · exact .inl rfl
  · split
    · rename_i s' committed
      exact .inr committed
    · exact .inl rfl

theorem writeBatch_faults : (s.writeBatch ws).1.faults = s.faults := by
  rcases writeBatch_cases calm ws with same | committed
  · rw [same]
  · exact commitBatch_faults committed

end Calm

/-- The requirements at the front of a batch that committed held in the store it met. -/
theorem applyWrites_front {s s' : Store} {pre rest : List Write}
    (applied : s.applyWrites (pre ++ rest) = .ok s') (checks : ∀ w ∈ pre, w.isRequire) :
    ∀ ns key held, Write.require ns key held ∈ pre → s.get ns key = held := by
  induction pre with
  | nil => intro _ _ _ mem; cases mem
  | cons w pre ih =>
    cases w with
    | require ns₀ key₀ held₀ =>
      simp only [List.cons_append, applyWrites, applyWrite] at applied
      split at applied
      · rename_i holds
        have rest := ih (by simpa [bind, Except.bind] using applied)
          (fun w mem => checks w (List.mem_cons_of_mem _ mem))
        intro ns key held mem
        rcases List.mem_cons.mp mem with same | later
        · cases same
          simpa using holds
        · exact rest ns key held later
      · cases applied
    | put _ _ _ => exact absurd (checks _ (List.mem_cons_self ..)) (by simp [Write.isRequire])
    | delete _ _ => exact absurd (checks _ (List.mem_cons_self ..)) (by simp [Write.isRequire])

theorem commitBatch_front {s s' : Store} {pre rest : List Write}
    (committed : s.commitBatch (pre ++ rest) = .ok s') (checks : ∀ w ∈ pre, w.isRequire) :
    ∀ ns key held, Write.require ns key held ∈ pre → s.get ns key = held := by
  unfold commitBatch at committed
  split at committed
  · exact applyWrites_front committed checks
  · split at committed
    · cases committed
    · rename_i unmetNone
      intro ns key held mem
      have quiet := List.find?_eq_none.mp unmetNone (.require ns key held)
        (List.mem_append_left rest mem)
      simpa using quiet

end Store

namespace Links

/-- A commit that succeeds with a write among its extras has made the batch of the link's writes
and the extras. -/
theorem commitWith_ok_get {s s' : Store} {localId remoteId : String} {extra : List Write}
    {now : Int} (done : commitWith s localId remoteId extra now = (s', .ok ()))
    (writes : extra.any (fun w => !w.isRequire)) :
    ∃ (ops : List Write) (s₀ : Store), linkOps s localId remoteId now = .ok ops ∧
      ∀ ns key, s'.get ns key = Write.onKeyAll (ops ++ extra) ns key (s₀.get ns key) := by
  unfold commitWith at done
  split at done
  · cases done
  · rename_i ops planned
    dsimp only at done
    split at done
    · rename_i onlyRequires
      simp only [List.all_append, Bool.and_eq_true] at onlyRequires
      have : extra.any (fun w => !w.isRequire) = false := by
        simpa [List.any_eq_false, List.all_eq_true] using onlyRequires.2
      simp [this] at writes
    · split at done
      · rename_i s₁ written
        cases done
        obtain ⟨s₀, after⟩ := Store.writeBatch_get written
        exact ⟨ops, s₀, planned, after⟩
      · split at done <;> cases done
      · cases done

end Links

end TrackerSync
