import TrackerSync.Proofs.Store.Rows
import Mathlib.Order.Basic
import Mathlib.Data.String.Basic

/-!
The two batch disciplines agree on every batch in which no requirement follows a write of its
own key; a requirement after such a write tells them apart.
-/

namespace TrackerSync

namespace Write

/-- No requirement of the batch follows a write of its own key, so each requirement reads its
key as the batch found it. -/
def ChecksFirst (ws : List Write) : Prop :=
  ws.Pairwise fun w v => v.isRequire = true → w.isRequire = false → w.target ≠ v.target

instance (ws : List Write) : Decidable (ChecksFirst ws) :=
  inferInstanceAs (Decidable (ws.Pairwise _))

theorem checksFirst_single (w : Write) : ChecksFirst [w] := List.pairwise_singleton _ w

end Write

namespace Store

theorem get_of_kv {a b : Store} (same : a.kv = b.kv) : a.get = b.get := by
  funext ns key
  simp only [get, same]

@[simp] theorem record_kv (s : Store) (row : AuditRow) : (s.record row).kv = s.kv := by
  unfold record
  split <;> rfl

theorem put_kv {a b : Store} (same : a.kv = b.kv) (ns key value : String) :
    (a.put ns key value).kv = (b.put ns key value).kv := by
  cases a
  cases b
  dsimp only at same
  subst same
  rfl

theorem remove_kv {a b : Store} (same : a.kv = b.kv) (ns key : String) :
    (a.remove ns key).1 = (b.remove ns key).1 ∧ (a.remove ns key).2.kv = (b.remove ns key).2.kv := by
  cases a
  cases b
  dsimp only at same
  subst same
  exact ⟨rfl, rfl⟩

theorem clear_kv {a b : Store} (same : a.kv = b.kv) (ns : String) :
    (a.clear ns).1 = (b.clear ns).1 ∧ (a.clear ns).2.kv = (b.clear ns).2.kv := by
  unfold clear
  refine ⟨by simp only [space, same], ?_⟩
  dsimp only
  split <;> split <;> simp only [record_kv, setSpace, same]

/-- The contents a write leaves, and whether it fails, depend only on the contents it meets. -/
theorem applyWrite_kv {a b : Store} (same : a.kv = b.kv) (w : Write) :
    (a.applyWrite w).map Store.kv = (b.applyWrite w).map Store.kv := by
  cases w with
  | put ns key value =>
    have written : ∀ s : Store, (s.applyWrite (.put ns key value)).map Store.kv =
        .ok (s.put ns key value).kv := by
      intro s
      simp only [applyWrite]
      split <;> (try split) <;> simp only [Except.map, record_kv]
    rw [written a, written b, put_kv same]
  | delete ns key =>
    have removed : ∀ s : Store, (s.applyWrite (.delete ns key)).map Store.kv =
        .ok (s.remove ns key).2.kv := by
      intro s
      simp only [applyWrite]
      split <;> simp only [Except.map, record_kv]
    rw [removed a, removed b, (remove_kv same ns key).2]
  | require ns key held =>
    simp only [applyWrite, get_of_kv same]
    split
    · simp only [Except.map, same]
    · rfl

theorem applyWrites_kv {a b : Store} (same : a.kv = b.kv) (ws : List Write) :
    (a.applyWrites ws).map Store.kv = (b.applyWrites ws).map Store.kv := by
  induction ws generalizing a b with
  | nil => simp only [applyWrites, Except.map, same]
  | cons w rest ih =>
    have first := applyWrite_kv same w
    rw [applyWrites, applyWrites]
    cases hA : a.applyWrite w with
    | error e =>
      cases hB : b.applyWrite w with
      | error e' =>
        rw [hA, hB] at first
        exact first
      | ok b' => rw [hA, hB] at first; cases first
    | ok a' =>
      cases hB : b.applyWrite w with
      | error e' => rw [hA, hB] at first; cases first
      | ok b' =>
        rw [hA, hB] at first
        simp only [Except.map, Except.ok.injEq] at first
        exact ih first

theorem unmet_kv {a b : Store} (same : a.kv = b.kv) (ws : List Write) : a.unmet ws = b.unmet ws := by
  simp only [unmet, get_of_kv same]

/-- Applying a batch in order, while each requirement reads a key the writes before it left as
the store `s₀` holds it, fails at the first requirement `s₀` does not satisfy, and otherwise
applies the writes. -/
theorem applyWrites_checksFirst {ws : List Write} (first : Write.ChecksFirst ws) {s₀ s : Store}
    (agree : ∀ ns key held, Write.require ns key held ∈ ws → s.get ns key = s₀.get ns key) :
    s.applyWrites ws = match s₀.unmet ws with
      | some w => .error w.conflict
      | none => s.applyWrites (ws.filter fun w => !w.isRequire) := by
  induction ws generalizing s with
  | nil => rfl
  | cons w rest ih =>
    obtain ⟨later, firstRest⟩ := List.pairwise_cons.mp first
    have agreeRest : ∀ ns key held, Write.require ns key held ∈ rest →
        s.get ns key = s₀.get ns key :=
      fun ns key held mem => agree ns key held (List.mem_cons_of_mem _ mem)
    cases w with
    | require ns key held =>
      have here : s.get ns key = s₀.get ns key := agree ns key held (List.mem_cons_self ..)
      by_cases holds : s₀.get ns key = held
      · -- the requirement holds in both, and both go on with the rest
        have step : s.applyWrite (.require ns key held) = .ok s := by
          simp [applyWrite, here, holds]
        have skipped : s₀.unmet (.require ns key held :: rest) = s₀.unmet rest := by
          simp [unmet, holds]
        rw [applyWrites, step, skipped, List.filter_cons_of_neg (by simp [Write.isRequire])]
        exact ih firstRest agreeRest
      · have step : s.applyWrite (.require ns key held) = .error (Write.require ns key held).conflict := by
          simp [applyWrite, here, holds]
        have found : s₀.unmet (.require ns key held :: rest) = some (.require ns key held) := by
          simp [unmet, holds]
        rw [applyWrites, step, found]
        rfl
    | put ns key value =>
      obtain ⟨s₁, step⟩ : ∃ s₁, s.applyWrite (.put ns key value) = .ok s₁ := by
        simp only [applyWrite]
        split <;> (try split) <;> exact ⟨_, rfl⟩
      -- the requirements after the write read keys it does not touch
      have untouched : ∀ ns' key' held, Write.require ns' key' held ∈ rest →
          s₁.get ns' key' = s₀.get ns' key' := by
        intro ns' key' held mem
        have apart := later _ mem rfl rfl
        rw [applyWrite_get step, Write.onKey_of_ne (fun same => apart (same.trans rfl)),
          agreeRest ns' key' held mem]
      have skipped : s₀.unmet (.put ns key value :: rest) = s₀.unmet rest := by
        simp [unmet]
      rw [applyWrites, step, skipped, List.filter_cons_of_pos (by simp [Write.isRequire]),
        applyWrites, step]
      exact ih firstRest untouched
    | delete ns key =>
      obtain ⟨s₁, step⟩ : ∃ s₁, s.applyWrite (.delete ns key) = .ok s₁ := by
        simp only [applyWrite]
        split <;> exact ⟨_, rfl⟩
      have untouched : ∀ ns' key' held, Write.require ns' key' held ∈ rest →
          s₁.get ns' key' = s₀.get ns' key' := by
        intro ns' key' held mem
        have apart := later _ mem rfl rfl
        rw [applyWrite_get step, Write.onKey_of_ne (fun same => apart (same.trans rfl)),
          agreeRest ns' key' held mem]
      have skipped : s₀.unmet (.delete ns key :: rest) = s₀.unmet rest := by
        simp [unmet]
      rw [applyWrites, step, skipped, List.filter_cons_of_pos (by simp [Write.isRequire]),
        applyWrites, step]
      exact ih firstRest untouched

/-- On a batch whose requirements read keys no earlier write of it touches, either discipline
checks every requirement first. -/
theorem commitBatch_checksFirst (s : Store) {ws : List Write} (first : Write.ChecksFirst ws) :
    s.commitBatch ws = match s.unmet ws with
      | some w => .error w.conflict
      | none => s.applyWrites (ws.filter fun w => !w.isRequire) := by
  unfold commitBatch
  split
  · exact applyWrites_checksFirst first fun _ _ _ _ => rfl
  · rfl

/-- Two stores with the same contents commit a batch of that kind alike, whatever their
disciplines: with the same contents after it, or with the same failure. -/
theorem commitBatch_kv {a b : Store} (same : a.kv = b.kv) {ws : List Write}
    (first : Write.ChecksFirst ws) :
    (a.commitBatch ws).map Store.kv = (b.commitBatch ws).map Store.kv := by
  rw [commitBatch_checksFirst a first, commitBatch_checksFirst b first, unmet_kv same]
  split
  · rfl
  · exact applyWrites_kv same _

/-- Stores with the same contents and the same planted faults. -/
structure Alike (a b : Store) : Prop where
  kv : a.kv = b.kv
  faults : a.faults = b.faults

/-- What is left of writing a batch once another writer's planted write, if any, has landed. -/
theorem batchOn_alike {a b : Store} (alike : Alike a b) {ws : List Write}
    (first : Write.ChecksFirst ws) :
    (if a.faults.failBatches then (a, some diskFull)
      else match a.commitBatch ws with
        | .ok s' => (s', none)
        | .error e => (a, some e)).2 =
      (if b.faults.failBatches then (b, some diskFull)
        else match b.commitBatch ws with
          | .ok s' => (s', none)
          | .error e => (b, some e)).2 ∧
    Alike (if a.faults.failBatches then (a, some diskFull)
      else match a.commitBatch ws with
        | .ok s' => (s', none)
        | .error e => (a, some e)).1
      (if b.faults.failBatches then (b, some diskFull)
        else match b.commitBatch ws with
          | .ok s' => (s', none)
          | .error e => (b, some e)).1 := by
  rw [← alike.faults]
  split
  · exact ⟨rfl, alike⟩
  · have committed := commitBatch_kv alike.kv first
    cases hA : a.commitBatch ws with
    | error e =>
      cases hB : b.commitBatch ws with
      | error e' =>
        rw [hA, hB] at committed
        cases committed
        exact ⟨rfl, alike⟩
      | ok b' => rw [hA, hB] at committed; cases committed
    | ok a' =>
      cases hB : b.commitBatch ws with
      | error e' => rw [hA, hB] at committed; cases committed
      | ok b' =>
        rw [hA, hB] at committed
        simp only [Except.map, Except.ok.injEq] at committed
        refine ⟨rfl, committed, ?_⟩
        rw [commitBatch_faults hA, commitBatch_faults hB, alike.faults]

/-- Two stores with the same contents and faults write a batch of that kind alike, whatever
their disciplines: the same failure, if any, and the same contents and faults after it. -/
theorem writeBatch_alike {a b : Store} (alike : Alike a b) {ws : List Write}
    (first : Write.ChecksFirst ws) :
    (a.writeBatch ws).2 = (b.writeBatch ws).2 ∧ Alike (a.writeBatch ws).1 (b.writeBatch ws).1 := by
  unfold writeBatch
  dsimp only
  refine batchOn_alike ?_ first
  rw [← alike.faults]
  cases a.faults.interference with
  | none => exact alike
  | some w =>
    dsimp only
    -- the planted write is a batch of one write, which both stores commit alike
    have cleared : Alike { a with faults := { a.faults with interference := none } }
        { b with faults := { a.faults with interference := none } } := ⟨alike.kv, rfl⟩
    have committed := commitBatch_kv cleared.kv (Write.checksFirst_single w)
    generalize { a with faults := { a.faults with interference := none } } = a₀ at cleared committed ⊢
    generalize { b with faults := { a.faults with interference := none } } = b₀ at cleared committed ⊢
    cases hA : a₀.commitBatch [w] with
    | error e =>
      cases hB : b₀.commitBatch [w] with
      | error e' => exact cleared
      | ok b' => rw [hA, hB] at committed; cases committed
    | ok a' =>
      cases hB : b₀.commitBatch [w] with
      | error e' => rw [hA, hB] at committed; cases committed
      | ok b' =>
        rw [hA, hB] at committed
        simp only [Except.map, Except.ok.injEq] at committed
        exact ⟨committed, by rw [commitBatch_faults hA, commitBatch_faults hB, cleared.faults]⟩

end Store

namespace Table

variable {ν : Type}

theorem mem_entries_insert {t : Table ν} {k : String} {v : ν} {p : String × ν}
    (mem : p ∈ (t.insert k v).entries) : p = (k, v) ∨ p ∈ t.entries :=
  mem_insertEntry mem

/-- An entry of a table is exactly what its key reads: its keys increase, so each has one entry. -/
theorem mem_entries_iff (t : Table ν) (k : String) (v : ν) :
    (k, v) ∈ t.entries ↔ t.get? k = some v := by
  obtain ⟨entries, ordered⟩ := t
  unfold get?
  dsimp only at ordered ⊢
  induction entries with
  | nil => simp
  | cons entry rest ih =>
    obtain ⟨key, value⟩ := entry
    simp only [List.map_cons, List.pairwise_cons, List.mem_map] at ordered
    obtain ⟨above, restOrdered⟩ := ordered
    by_cases here : key = k
    · subst here
      -- the key is not among the later entries, whose keys are larger
      have absent : (key, v) ∉ rest := fun mem => String.lt_irrefl key (above key ⟨(key, v), mem, rfl⟩)
      simp [absent, eq_comm]
    · have skip : (key == k) = false := by simpa using here
      simp only [List.mem_cons, Prod.mk.injEq, List.find?_cons, skip]
      rw [← ih restOrdered]
      simp [Ne.symm here]

end Table

/-- An operation of the key-value interface of a store. -/
inductive KvOp where
  | get (ns key : String)
  | put (ns key value : String)
  | delete (ns key : String)
  | keys (ns : String)
  | clear (ns : String)
  | batch (writes : List Write)

/-- What an operation of the key-value interface answers. -/
inductive KvAnswer where
  | held (value : Option String)
  | done
  | existed (was : Bool)
  | keys (keys : List String)
  | removed (count : Nat)
  | written (failure : Option Error)

def KvOp.ChecksFirst : KvOp → Prop
  | .batch ws => Write.ChecksFirst ws
  | _ => True

instance (op : KvOp) : Decidable op.ChecksFirst :=
  match op with
  | .batch ws => inferInstanceAs (Decidable (Write.ChecksFirst ws))
  | .get _ _ | .put _ _ _ | .delete _ _ | .keys _ | .clear _ => isTrue trivial

namespace Store

def perform (s : Store) : KvOp → KvAnswer × Store
  | .get ns key => (.held (s.get ns key), s)
  | .put ns key value => (.done, s.put ns key value)
  | .delete ns key => (.existed (s.remove ns key).1, (s.remove ns key).2)
  | .keys ns => (.keys (s.keys ns), s)
  | .clear ns => (.removed (s.clear ns).1, (s.clear ns).2)
  | .batch ws => (.written (s.writeBatch ws).2, (s.writeBatch ws).1)

def performAll (s : Store) : List KvOp → List KvAnswer × Store
  | [] => ([], s)
  | op :: ops =>
    ((s.perform op).1 :: ((s.perform op).2.performAll ops).1, ((s.perform op).2.performAll ops).2)

theorem clear_faults (s : Store) (ns : String) : (s.clear ns).2.faults = s.faults := by
  unfold clear
  dsimp only
  split
  · rw [record_faults]
    rfl
  · rfl

theorem perform_alike {a b : Store} (alike : Alike a b) {op : KvOp} (first : op.ChecksFirst) :
    (a.perform op).1 = (b.perform op).1 ∧ Alike (a.perform op).2 (b.perform op).2 := by
  cases op with
  | get ns key => exact ⟨by simp only [perform, get_of_kv alike.kv], alike⟩
  | put ns key value => exact ⟨rfl, put_kv alike.kv ns key value, alike.faults⟩
  | delete ns key =>
    obtain ⟨existed, removed⟩ := remove_kv alike.kv ns key
    exact ⟨by simp only [perform, existed], removed, alike.faults⟩
  | keys ns => exact ⟨by simp only [perform, keys, space, alike.kv], alike⟩
  | clear ns =>
    obtain ⟨count, cleared⟩ := clear_kv alike.kv ns
    refine ⟨by simp only [perform, count], cleared, ?_⟩
    simp only [perform, clear_faults, alike.faults]
  | batch ws =>
    obtain ⟨failure, after⟩ := writeBatch_alike alike first
    exact ⟨by simp only [perform, failure], after⟩

theorem performAll_alike {a b : Store} (alike : Alike a b) {ops : List KvOp}
    (first : ∀ op ∈ ops, op.ChecksFirst) :
    (a.performAll ops).1 = (b.performAll ops).1 ∧ Alike (a.performAll ops).2 (b.performAll ops).2 := by
  induction ops generalizing a b with
  | nil => exact ⟨rfl, alike⟩
  | cons op rest ih =>
    obtain ⟨answer, after⟩ := perform_alike alike (first op (List.mem_cons_self ..))
    obtain ⟨answers, final⟩ := ih after fun op' mem => first op' (List.mem_cons_of_mem _ mem)
    exact ⟨by simp only [performAll, answer, answers], final⟩

theorem performAll_keys_sorted (s : Store) (ops : List KvOp) :
    ∀ ks, KvAnswer.keys ks ∈ (s.performAll ops).1 → ks.Pairwise (· < ·) := by
  induction ops generalizing s with
  | nil => intro ks mem; cases mem
  | cons op rest ih =>
    intro ks mem
    rcases List.mem_cons.mp mem with here | later
    · cases op with
      | keys ns =>
        simp only [perform, KvAnswer.keys.injEq] at here
        rw [here]
        exact (s.space ns).ordered
      | get _ _ | put _ _ _ | delete _ _ | clear _ | batch _ => simp [perform] at here
    · exact ih _ ks later

end Store

/-- An operation on local items. -/
inductive LocalOp where
  | save (e : Entity)
  | remove (id : String)

namespace LocalOp

def onId (id : String) (held : Option Entity) : LocalOp → Option Entity
  | .save e => if e.id = id then some e else held
  | .remove id' => if id' = id then none else held

/-- The item operations leave under an id: the last one saved under it, none once it is removed
after that. -/
def lastUnder (ops : List LocalOp) (id : String) (held : Option Entity) : Option Entity :=
  ops.foldl (onId id) held

end LocalOp

namespace Store

def performLocal (s : Store) : LocalOp → Store
  | .save e => s.saveEntity e
  | .remove id => (s.removeEntity id).2

/-- Local items whose rows all read back: each item under its own id, no row changed by other
means, and loads not failing. -/
structure RowsClean (s : Store) : Prop where
  keyed : ∀ p ∈ s.entities.entries, p.2.id = p.1
  noStrays : s.strays.entries = []
  loads : s.faults.failLoads = false

theorem empty_rowsClean : ({} : Store).RowsClean :=
  ⟨fun _ mem => (by cases mem), rfl, rfl⟩

@[simp] theorem record_entities (s : Store) (row : AuditRow) : (s.record row).entities = s.entities := by
  unfold record
  split <;> rfl

@[simp] theorem record_strays (s : Store) (row : AuditRow) : (s.record row).strays = s.strays := by
  unfold record
  split <;> rfl

theorem erase_nil {ν : Type} {t : Table ν} (empty : t.entries = []) (k : String) :
    (t.erase k).entries = [] := by
  simp [Table.erase, empty]

theorem saveEntity_rowsClean {s : Store} (clean : s.RowsClean) (e : Entity) :
    (s.saveEntity e).RowsClean := by
  unfold saveEntity
  -- a durable store writes the item's row, which reads back as the item
  rw [keepItem_eq]
  refine ⟨?_, ?_, ?_⟩
  · intro p mem
    rw [record_entities] at mem
    rcases Table.mem_entries_insert mem with rfl | old
    · rfl
    · exact clean.keyed p old
  · rw [record_strays]
    exact erase_nil clean.noStrays e.id
  · rw [record_faults]
    exact clean.loads

theorem kindTextOf?_clean {s : Store} (clean : s.RowsClean) (id : String) :
    s.kindTextOf? id = (s.entities.get? id).map (·.kind.name) := by
  unfold kindTextOf?
  cases s.entities.get? id with
  | some e => rfl
  | none => simp [Table.get?, clean.noStrays]

theorem removeEntity_rowsClean {s : Store} (clean : s.RowsClean) (id : String) :
    (s.removeEntity id).2.RowsClean := by
  unfold removeEntity
  split
  · exact clean
  · refine ⟨?_, ?_, ?_⟩
    · intro p mem
      rw [record_entities] at mem
      exact clean.keyed p (List.mem_of_mem_filter mem)
    · rw [record_strays]
      exact erase_nil clean.noStrays id
    · rw [record_faults]
      exact clean.loads

theorem performLocal_rowsClean {s : Store} (clean : s.RowsClean) (op : LocalOp) :
    (s.performLocal op).RowsClean := by
  cases op with
  | save e => exact saveEntity_rowsClean clean e
  | remove id => exact removeEntity_rowsClean clean id

theorem performLocal_get {s : Store} (clean : s.RowsClean) (op : LocalOp) (id : String) :
    (s.performLocal op).entities.get? id = op.onId id (s.entities.get? id) := by
  cases op with
  | save e =>
    simp only [performLocal, saveEntity, keepItem_eq, record_entities, Table.get?_insert,
      LocalOp.onId]
  | remove id' =>
    simp only [performLocal, removeEntity, LocalOp.onId]
    rw [kindTextOf?_clean clean]
    cases held : s.entities.get? id' with
    | none =>
      by_cases same : id' = id
      · subst same
        simp [held]
      · simp [same]
    | some e =>
      simp only [Option.map_some, record_entities, Table.get?_erase]

/-- A load reads the item table, and a removal says whether it held the id. -/
theorem load_clean {s : Store} (clean : s.RowsClean) (id : String) :
    s.load id = .ok (s.entities.get? id) := by
  simp [load, clean.loads, Table.get?, clean.noStrays]

theorem removeEntity_clean {s : Store} (clean : s.RowsClean) (id : String) :
    (s.removeEntity id).1 = (s.entities.get? id).isSome := by
  unfold removeEntity
  rw [kindTextOf?_clean clean]
  cases s.entities.get? id <;> rfl

/-- A durable store lists with a kind, from its rows, what a store in memory lists from its items. -/
theorem listRows_clean {s : Store} (clean : s.RowsClean) (k : Kind) : s.listRows k = .ok (s.list k) := by
  simp [listRows, Table.values, clean.noStrays]
  rfl

theorem kind_beq_iff (a b : Kind) : (a == b) = true ↔ a = b := by
  cases a <;> cases b <;> decide

theorem mem_list_clean {s : Store} (clean : s.RowsClean) (k : Kind) (e : Entity) :
    e ∈ s.list k ↔ s.entities.get? e.id = some e ∧ e.kind = k := by
  simp only [list, Table.values, List.mem_filter, List.mem_map, kind_beq_iff]
  constructor
  · rintro ⟨⟨p, mem, rfl⟩, kind⟩
    refine ⟨?_, kind⟩
    rw [clean.keyed p mem]
    exact (Table.mem_entries_iff _ p.1 p.2).mp mem
  · rintro ⟨held, kind⟩
    exact ⟨⟨(e.id, e), (Table.mem_entries_iff _ e.id e).mpr held, rfl⟩, kind⟩

theorem performLocalAll_get {s : Store} (clean : s.RowsClean) (ops : List LocalOp) (id : String) :
    (ops.foldl performLocal s).RowsClean ∧
      (ops.foldl performLocal s).entities.get? id = LocalOp.lastUnder ops id (s.entities.get? id) := by
  induction ops generalizing s with
  | nil => exact ⟨clean, rfl⟩
  | cons op rest ih =>
    obtain ⟨clean', held⟩ := ih (performLocal_rowsClean clean op)
    refine ⟨clean', ?_⟩
    rw [List.foldl_cons, held, performLocal_get clean op id]
    rfl

theorem rowsClean_durable {s : Store} (clean : s.RowsClean) (d : Bool) :
    ({ s with durable := d } : Store).RowsClean :=
  ⟨clean.keyed, clean.noStrays, clean.loads⟩

/-- A durable store and one in memory agree wherever a batch checks a key before it writes it, and
load, remove and list local items alike, the durable one through its rows. -/
theorem durable_store_agrees_with_memory (s : Store)
    (calm : s.faults.interference = none) (clean : s.RowsClean)
    (ops : List KvOp) (first : ∀ op ∈ ops, op.ChecksFirst) (localOps : List LocalOp) :
    ({ s with durable := true }.performAll ops).1 = ({ s with durable := false }.performAll ops).1 ∧
    ({ s with durable := true }.performAll ops).2.kv =
      ({ s with durable := false }.performAll ops).2.kv ∧
    (∀ ks, KvAnswer.keys ks ∈ ({ s with durable := true }.performAll ops).1 →
      ks.Pairwise (· < ·)) ∧
    (∀ (d : Bool) (ws : List Write) (e : Error), ({ s with durable := d }.writeBatch ws).2 = some e →
      ({ s with durable := d }.writeBatch ws).1 = { s with durable := d }) ∧
    (∀ (d : Bool) (id : String), (localOps.foldl performLocal { s with durable := d }).load id =
          .ok (LocalOp.lastUnder localOps id (s.entities.get? id)) ∧
        ((localOps.foldl performLocal { s with durable := d }).removeEntity id).1 =
          (LocalOp.lastUnder localOps id (s.entities.get? id)).isSome) ∧
    ∀ k, (∀ e, e ∈ (localOps.foldl performLocal { s with durable := false }).list k ↔
        LocalOp.lastUnder localOps e.id (s.entities.get? e.id) = some e ∧ e.kind = k) ∧
      ∃ listed, (localOps.foldl performLocal { s with durable := true }).listRows k = .ok listed ∧
        ∀ e, e ∈ listed ↔ e ∈ (localOps.foldl performLocal { s with durable := false }).list k := by
  obtain ⟨answers, after⟩ :=
    performAll_alike (a := { s with durable := true }) (b := { s with durable := false }) ⟨rfl, rfl⟩
      first
  refine ⟨answers, after.kv, performAll_keys_sorted _ ops,
    fun d ws e failed => writeBatch_failed (s := { s with durable := d }) calm ws failed,
    fun d id => ?_, fun k => ⟨fun e => ?_, ?_⟩⟩
  · -- every id reads the item the local operations left under it
    obtain ⟨final, held⟩ := performLocalAll_get (rowsClean_durable clean d) localOps id
    rw [load_clean final, removeEntity_clean final, held]
    exact ⟨rfl, rfl⟩
  · obtain ⟨final, held⟩ := performLocalAll_get (rowsClean_durable clean false) localOps e.id
    rw [mem_list_clean final, held]
  · -- the durable store's rows read back as the items the store in memory keeps
    obtain ⟨durable, -⟩ := performLocalAll_get (rowsClean_durable clean true) localOps ""
    refine ⟨_, listRows_clean durable k, fun e => ?_⟩
    obtain ⟨durable, inDurable⟩ := performLocalAll_get (rowsClean_durable clean true) localOps e.id
    obtain ⟨memory, inMemory⟩ := performLocalAll_get (rowsClean_durable clean false) localOps e.id
    rw [mem_list_clean durable, mem_list_clean memory, inDurable, inMemory]

def shippedMilestone : Entity :=
  { id := "M1", kind := .milestone, title := "Ship", status := "open", assignee := some "ana"
    labels := ["a,b", "v2"], updatedAt := 5 }

theorem durable_store_agrees_with_memory_on_checked_batch :
    ({} : Store).faults.interference = none ∧ ({} : Store).RowsClean ∧
      (∀ op ∈ [KvOp.batch [.require "x" "k" none, .put "x" "k" "v"], .keys "x"], op.ChecksFirst) ∧
      ({ ({} : Store) with durable := true }.performAll
          [KvOp.batch [.require "x" "k" none, .put "x" "k" "v"], .keys "x"]).1 =
        ({ ({} : Store) with durable := false }.performAll
          [KvOp.batch [.require "x" "k" none, .put "x" "k" "v"], .keys "x"]).1 ∧
      ([LocalOp.save shippedMilestone].foldl performLocal { ({} : Store) with durable := true }).load
          "M1" = .ok (some shippedMilestone) := by
  have first : ∀ op ∈ [KvOp.batch [.require "x" "k" none, .put "x" "k" "v"], .keys "x"],
      op.ChecksFirst := by decide
  obtain ⟨answers, -, -, -, loads, -⟩ :=
    durable_store_agrees_with_memory {} rfl empty_rowsClean _ first [.save shippedMilestone]
  refine ⟨rfl, empty_rowsClean, first, answers, ?_⟩
  rw [(loads true "M1").1]
  rfl

/-- A require after a write to its own key: the durable store checks it against the write, the
store in memory against the key as it was before the batch. -/
theorem require_after_put_splits_disciplines :
    ({ durable := true } : Store).writeBatch [.put "x" "k" "v", .require "x" "k" (some "v")] =
        (({ durable := true } : Store).put "x" "k" "v", none) ∧
      (({ durable := false } : Store).writeBatch [.put "x" "k" "v", .require "x" "k" (some "v")]).2 =
        some (.writeConflict "x" "k") := by
  constructor <;> rfl

end Store

end TrackerSync
