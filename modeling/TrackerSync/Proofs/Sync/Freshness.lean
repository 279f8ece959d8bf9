import TrackerSync.Proofs.Snapshot.Codec
import TrackerSync.Proofs.Sync.CacheHit

/-!
The cache's freshness law: the cache serves, for each key, the latest write not since removed,
and reading drops what is stale or unreadable.
-/

namespace TrackerSync

namespace Store

theorem remove_fst (s : Store) (ns key : String) : (s.remove ns key).1 = (s.get ns key).isSome := by
  rw [remove, get_eq_space, Table.contains_eq_isSome]

@[simp] theorem remove_faults (s : Store) (ns key : String) : (s.remove ns key).2.faults = s.faults := by
  simp only [remove, setSpace]

@[simp] theorem put_faults (s : Store) (ns key value : String) : (s.put ns key value).faults = s.faults := by
  simp only [put, setSpace]

theorem applyWrite_unchecked (s : Store) {w : Write} (unchecked : w.isRequire = false) :
    ∃ s', s.applyWrite w = .ok s' := by
  cases w with
  | put ns key value =>
    simp only [applyWrite]
    split <;> (try split) <;> exact ⟨_, rfl⟩
  | delete ns key =>
    simp only [applyWrite]
    split <;> exact ⟨_, rfl⟩
  | require ns key value => cases unchecked

theorem applyWrites_unchecked {ws : List Write} (unchecked : ∀ w ∈ ws, w.isRequire = false) :
    ∀ s : Store, ∃ s', s.applyWrites ws = .ok s' := by
  induction ws with
  | nil => exact fun s => ⟨s, rfl⟩
  | cons w rest ih =>
    intro s
    obtain ⟨s₁, applied⟩ := applyWrite_unchecked s (unchecked w (List.mem_cons_self ..))
    obtain ⟨s₂, rest⟩ := ih (fun v mem => unchecked v (List.mem_cons_of_mem w mem)) s₁
    exact ⟨s₂, by rw [applyWrites, applied]; exact rest⟩

/-- A batch that checks nothing commits in a store whose batches do not fail and where no other
writer's write is planted: each key then holds what the batch's writes leave in it. -/
theorem writeBatch_unchecked {s : Store} (batches : s.faults.failBatches = false)
    (planted : s.faults.interference = none) {ws : List Write}
    (unchecked : ∀ w ∈ ws, w.isRequire = false) :
    ∃ s', s.writeBatch ws = (s', none) ∧ s'.faults = s.faults ∧
      ∀ ns key, s'.get ns key = Write.onKeyAll ws ns key (s.get ns key) := by
  obtain ⟨s', committed⟩ : ∃ s', s.commitBatch ws = .ok s' := by
    unfold commitBatch
    split
    · exact applyWrites_unchecked unchecked s
    · have met : s.unmet ws = none := by
        rw [unmet, List.find?_eq_none]
        intro w mem
        cases w with
        | require _ _ _ => cases unchecked _ mem
        | put _ _ _ => simp
        | delete _ _ => simp
      have kept : (ws.filter fun w => !w.isRequire) = ws :=
        List.filter_eq_self.mpr fun w mem => by simp [unchecked w mem]
      rw [met, kept]
      exact applyWrites_unchecked unchecked s
  refine ⟨s', ?_, commitBatch_faults committed, commitBatch_get committed⟩
  rw [writeBatch_calm planted, batches, committed]
  rfl

theorem clear_get (s : Store) (ns key : String) : (s.clear ns).2.get ns key = none := by
  unfold clear
  dsimp only
  split <;> simp [get_setSpace, Table.get?]

end Store

namespace Cache

variable {s : Store} {id : String}

theorem delete_cache (dropping : s.faults.failDeletes = false) (id : String) :
    s.delete nsCache id = .ok ((s.get nsCache id).isSome, (s.remove nsCache id).2) := by
  rw [Store.delete, if_neg (Bool.eq_false_iff.mp dropping), ← Store.remove_fst]

theorem evict_from (dropping : s.faults.failDeletes = false) (id : String) (es : List Event) :
    (ExceptT.run (evict id)).run (s, es) =
      (.ok (), (s.remove nsCache id).2,
        if (s.get nsCache id).isSome then es ++ [.cacheEvicted id] else es) := by
  unfold evict
  rw [ExceptT.run_bind, StateT.run_bind, StoreAct.delete_run_of_ok es (delete_cache dropping id)]
  cases (s.get nsCache id).isSome <;> rfl

theorem load_from (id : String) (s : Store) (es : List Event) :
    (ExceptT.run (load id)).run (s, es) = (ExceptT.run (match s.get nsCache id with
        | none => (pure none : StoreAct (Option CacheEntry))
        | some raw =>
          match CacheEntry.decode id raw with
          | .ok e => pure (some e)
          | .error _ => do evict id; return none)).run (s, es) := rfl

theorem load_absent (held : s.get nsCache id = none) (es : List Event) :
    (ExceptT.run (load id)).run (s, es) = (.ok none, s, es) := by
  rw [load_from, held]
  rfl

theorem load_readable {raw : String} {e : CacheEntry} (held : s.get nsCache id = some raw)
    (decoded : CacheEntry.decode id raw = .ok e) (es : List Event) :
    (ExceptT.run (load id)).run (s, es) = (.ok (some e), s, es) := by
  rw [load_from, held]
  dsimp only
  rw [decoded]
  rfl

theorem load_unreadable (dropping : s.faults.failDeletes = false) {raw msg : String}
    (held : s.get nsCache id = some raw) (failed : CacheEntry.decode id raw = .error msg)
    (es : List Event) :
    (ExceptT.run (load id)).run (s, es) =
      (.ok none, (s.remove nsCache id).2, es ++ [.cacheEvicted id]) := by
  rw [load_from, held]
  dsimp only
  rw [failed]
  dsimp only
  rw [ExceptT.run_bind, StateT.run_bind, evict_from dropping, held]
  rfl

/-- The snapshot the text under a key serves at the clock: that of the entry it reads as, when
the entry is fresh. -/
def serves (c : CacheClock) (id : String) : Option String → Option Snapshot
  | some raw =>
    match CacheEntry.decode id raw with
    | .ok e => if isFreshEntry c e then some e.snapshot else none
    | .error _ => none
  | none => none

/-- Whether the text under a key is there but does not read as an entry. -/
def unreadable (id : String) : Option String → Bool
  | some raw => !(CacheEntry.decode id raw).toBool
  | none => false

theorem run_eq {α : Type} (act : StoreAct α) (s : Store) :
    act.run s = (ExceptT.run act).run (s, []) := rfl

/-- Reading a key serves what its text serves; a text there that serves nothing is dropped, with
one `cache_evicted`. -/
theorem get_spec (dropping : s.faults.failDeletes = false) (c : CacheClock) (id : String) :
    (get c id).run s = (.ok (serves c id (s.get nsCache id)),
      if (s.get nsCache id).isSome && (serves c id (s.get nsCache id)).isNone then
        ((s.remove nsCache id).2, [.cacheEvicted id])
      else (s, [])) := by
  rw [run_eq]
  unfold get
  rw [ExceptT.run_bind, StateT.run_bind]
  cases held : s.get nsCache id with
  | none =>
    rw [load_absent held]
    rfl
  | some raw =>
    cases decoded : CacheEntry.decode id raw with
    | error msg =>
      rw [load_unreadable dropping held decoded]
      simp [serves, decoded]
      rfl
    | ok e =>
      rw [load_readable held decoded]
      cases fresh : isFreshEntry c e with
      | true =>
        show (ExceptT.run (if isFreshEntry c e = true then pure (some e.snapshot)
          else do evict id; return none)).run (s, []) = _
        rw [if_pos fresh]
        simp only [serves, decoded, fresh, if_true]
        rfl
      | false =>
        show (ExceptT.run (if isFreshEntry c e = true then pure (some e.snapshot)
          else do evict id; return none)).run (s, []) = _
        rw [if_neg (by simp [fresh]), ExceptT.run_bind, StateT.run_bind, evict_from dropping, held]
        simp [serves, decoded, fresh]
        rfl

/-- Asking whether a key is fresh answers whether reading it would serve a snapshot; it drops a
text there that does not read as an entry, and changes nothing else. -/
theorem isFresh_spec (dropping : s.faults.failDeletes = false) (c : CacheClock) (id : String) :
    (isFresh c id).run s = (.ok (serves c id (s.get nsCache id)).isSome,
      if unreadable id (s.get nsCache id) then ((s.remove nsCache id).2, [.cacheEvicted id])
      else (s, [])) := by
  rw [run_eq]
  unfold isFresh
  rw [ExceptT.run_bind, StateT.run_bind]
  cases held : s.get nsCache id with
  | none =>
    rw [load_absent held]
    rfl
  | some raw =>
    cases decoded : CacheEntry.decode id raw with
    | error msg =>
      rw [load_unreadable dropping held decoded]
      simp [serves, unreadable, decoded]
      rfl
    | ok e =>
      rw [load_readable held decoded]
      have answer : (some e).any (isFreshEntry c) = (serves c id (some raw)).isSome := by
        cases fresh : isFreshEntry c e <;> simp [serves, decoded, fresh]
      have kept : unreadable id (some raw) = false := by
        simp [unreadable, decoded, Except.toBool]
      rw [kept, ← answer]
      rfl

theorem invalidate_one_spec (dropping : s.faults.failDeletes = false) (id : String) :
    (invalidate (some id)).run s =
      (.ok (if (s.get nsCache id).isSome then 1 else 0), (s.remove nsCache id).2, []) := by
  rw [run_eq]
  unfold invalidate
  rw [ExceptT.run_bind, StateT.run_bind, StoreAct.delete_run_of_ok [] (delete_cache dropping id)]
  cases (s.get nsCache id).isSome <;> rfl

theorem invalidate_all_spec (s : Store) :
    (invalidate none).run s = (.ok (s.keys nsCache).length, (s.clear nsCache).2, []) := by
  have counted : (s.clear nsCache).1 = (s.keys nsCache).length := by
    simp [Store.clear, Store.keys, Table.size, Table.keys]
  rw [← counted]
  rfl

theorem unreadable_isSome {id : String} {held : Option String} (bad : unreadable id held = true) :
    held.isSome = true := by
  cases held with
  | none => cases bad
  | some _ => rfl

/-- Listing the entries of some keys drops the texts among them that do not read as entries,
and nothing else. -/
theorem filterMapM_load (ks : List String) :
    ∀ (s : Store) (es : List Event), s.faults.failDeletes = false →
      ∃ r s' es', (ExceptT.run (ks.filterMapM load)).run (s, es) = (.ok r, s', es') ∧
        s'.faults = s.faults ∧
        ∀ ns k, s'.get ns k =
          if ns = nsCache ∧ k ∈ ks ∧ unreadable k (s.get nsCache k) = true then none
          else s.get ns k := by
  induction ks with
  | nil =>
    intro s es _
    exact ⟨[], s, es, rfl, rfl, fun ns k => by simp⟩
  | cons k ks ih =>
    intro s es dropping
    rw [List.filterMapM_cons, ExceptT.run_bind, StateT.run_bind]
    -- the text of the key read first is kept unless it does not read as an entry
    have kept : ∀ {s' : Store}, (∀ ns k', s'.get ns k' =
          if ns = nsCache ∧ k' ∈ ks ∧ unreadable k' (s.get nsCache k') = true then none
          else s.get ns k') → unreadable k (s.get nsCache k) = false →
        ∀ ns k', s'.get ns k' =
          if ns = nsCache ∧ k' ∈ k :: ks ∧ unreadable k' (s.get nsCache k') = true then none
          else s.get ns k' := by
      intro s' later readable ns k'
      rw [later]
      by_cases same : k' = k
      · subst same
        simp [readable]
      · simp [same]
    cases held : s.get nsCache k with
    | none =>
      rw [load_absent held]
      obtain ⟨r, s', es', run, faults, later⟩ := ih s es dropping
      exact ⟨r, s', es', run, faults, kept later (by simp [held, unreadable])⟩
    | some raw =>
      cases decoded : CacheEntry.decode k raw with
      | ok e =>
        rw [load_readable held decoded]
        obtain ⟨r, s', es', run, faults, later⟩ := ih s es dropping
        refine ⟨e :: r, s', es', ?_, faults, kept later (by simp [held, unreadable, decoded, Except.toBool])⟩
        show (ExceptT.run (do let r ← ks.filterMapM load; pure (e :: r))).run (s, es) = _
        rw [ExceptT.run_bind, StateT.run_bind, run]
        rfl
      | error msg =>
        rw [load_unreadable dropping held decoded]
        obtain ⟨r, s', es', run, faults, later⟩ :=
          ih (s.remove nsCache k).2 (es ++ [.cacheEvicted k]) (by simpa using dropping)
        refine ⟨r, s', es', run, by simpa using faults, fun ns k' => ?_⟩
        rw [later, Store.get_remove, Store.get_remove]
        by_cases space : ns = nsCache
        · subst space
          by_cases same : k' = k
          · subst same
            simp [held, unreadable, decoded, Except.toBool]
          · simp [same, Ne.symm same]
        · simp [space, Ne.symm space]

theorem mem_keys_iff (s : Store) (ns key : String) :
    key ∈ s.keys ns ↔ (s.get ns key).isSome := by
  rw [Store.keys, Store.get_eq_space, Table.keys, ← Table.contains_eq_isSome, Table.contains,
    List.any_eq_true, List.mem_map]
  simp

/-- Listing the entries drops every text that does not read as an entry, and nothing else. -/
theorem entries_spec (dropping : s.faults.failDeletes = false) :
    ∃ r s' es, entries.run s = (.ok r, s', es) ∧ s'.faults = s.faults ∧
      ∀ ns k, s'.get ns k =
        if ns = nsCache ∧ unreadable k (s.get nsCache k) = true then none else s.get ns k := by
  obtain ⟨r, s', es, run, faults, dropped⟩ := filterMapM_load (s.keys nsCache) s [] dropping
  refine ⟨r, s', es, run, faults, fun ns k => ?_⟩
  rw [dropped]
  by_cases bad : unreadable k (s.get nsCache k) = true
  · simp [bad, (mem_keys_iff s nsCache k).mpr (unreadable_isSome bad)]
  · simp [bad]

theorem summary_spec (dropping : s.faults.failDeletes = false) (c : CacheClock) :
    ∃ r s' es, entries.run s = (.ok r, s', es) ∧
      (summary c).run s = (.ok ⟨r.length, (r.filter (isFreshEntry c)).length,
        r.length - (r.filter (isFreshEntry c)).length⟩, s', es) := by
  obtain ⟨r, s', es, run, -, -⟩ := entries_spec dropping
  refine ⟨r, s', es, run, ?_⟩
  rw [run_eq]
  unfold summary
  rw [ExceptT.run_bind, StateT.run_bind, ← run_eq, run]
  rfl

/-! Runs of steps, with the latest writes they leave. -/

/-- What was last written under a key of the cache: an entry put at a clock reading, or a text
of another writer. -/
inductive Written where
  | entry (snap : Snapshot) (fetchedAt : Int)
  | foreign (text : String)
  deriving DecidableEq

def Written.text (id : String) : Written → String
  | .entry snap t => Json.compact ({ remoteId := id, snapshot := snap, fetchedAt := t } : CacheEntry).toJson
  | .foreign text => text

def held (log : String → Option Written) (k : String) : Option String := (log k).map (·.text k)

/-- One step on the cache: by its users, each at its own clock reading, or by another writer. -/
inductive Op where
  | put (now : Int) (id : String) (snap : Snapshot)
  /-- Entries written through one batch, as a commit folds them in. -/
  | putAll (now : Int) (puts : List (String × Snapshot))
  | get (now : Int) (id : String)
  | isFresh (now : Int) (id : String)
  | invalidate (scope : Option String)
  | entries
  | summary (now : Int)
  | foreignPut (id text : String)
  | foreignDelete (id : String)

namespace Op

def apply (ttl : Nat) : Op → Store → Store
  | put now id snap, s => ((Cache.put { ttl, now } id snap).run s).2.1
  | putAll now puts, s =>
    ((StoreAct.writeBatch (puts.map fun p => putOp { ttl, now } p.1 p.2)).run s).2.1
  | get now id, s => ((Cache.get { ttl, now } id).run s).2.1
  | isFresh now id, s => ((Cache.isFresh { ttl, now } id).run s).2.1
  | invalidate scope, s => ((Cache.invalidate scope).run s).2.1
  | entries, s => (Cache.entries.run s).2.1
  | summary now, s => ((Cache.summary { ttl, now }).run s).2.1
  | foreignPut id text, s => s.put nsCache id text
  | foreignDelete id, s => (s.remove nsCache id).2

/-- The latest writes after a step: a put writes its entries and another writer its text; a
removal, an invalidation or an eviction drops what was written. -/
def record (ttl : Nat) (log : String → Option Written) : Op → String → Option Written
  | put now id snap => fun k => if k = id then some (.entry snap now) else log k
  | putAll now puts =>
    puts.foldl (fun log p k => if k = p.1 then some (.entry p.2 now) else log k) log
  | get now id => fun k =>
    if k = id ∧ ((held log k).isSome && (serves { ttl, now } k (held log k)).isNone) = true then none
    else log k
  | isFresh _ id => fun k => if k = id ∧ unreadable k (held log k) = true then none else log k
  | invalidate (some id) => fun k => if k = id then none else log k
  | invalidate none => fun _ => none
  | entries | summary _ => fun k => if unreadable k (held log k) = true then none else log k
  | foreignPut id text => fun k => if k = id then some (.foreign text) else log k
  | foreignDelete id => fun k => if k = id then none else log k

/-- A step whose entries carry a clock reading of 64 bits and snapshots whose update times the
calendar holds, as the clock and the snapshots' types give them. -/
def Representable : Op → Prop
  | put now _ snap => (i64Min ≤ now ∧ now ≤ i64Max) ∧ snap.TimesValid
  | putAll now puts => (i64Min ≤ now ∧ now ≤ i64Max) ∧ ∀ p ∈ puts, p.2.TimesValid
  | _ => True

end Op

def replay (ttl : Nat) (ops : List Op) (s : Store) : Store := ops.foldl (fun s op => op.apply ttl s) s

def recordAll (ttl : Nat) (ops : List Op) (log : String → Option Written) : String → Option Written :=
  ops.foldl (Op.record ttl) log

/-- A store where nothing fails and no other writer's write is planted. -/
structure Calm (s : Store) : Prop where
  batches : s.faults.failBatches = false
  deletes : s.faults.failDeletes = false
  planted : s.faults.interference = none

theorem Calm.of_faults {s s' : Store} (calm : Calm s) (same : s'.faults = s.faults) : Calm s' :=
  ⟨same ▸ calm.batches, same ▸ calm.deletes, same ▸ calm.planted⟩

/-- The store holds under each key of the cache the text of the latest write. -/
def Tracks (s : Store) (log : String → Option Written) : Prop := ∀ k, s.get nsCache k = held log k

/-- Every entry among the latest writes carries a 64-bit clock reading and a snapshot whose update
times the calendar holds. -/
def EntriesRepresentable (log : String → Option Written) : Prop :=
  ∀ k snap t, log k = some (.entry snap t) → snap.TimesValid ∧ i64Min ≤ t ∧ t ≤ i64Max

section Step

variable {ttl : Nat} {s : Store} {log : String → Option Written}

theorem held_drop (log : String → Option Written) (P : String → Prop) [DecidablePred P]
    (k : String) : held (fun k => if P k then none else log k) k = if P k then none else held log k := by
  by_cases dropped : P k <;> simp [held, dropped]

/-- Dropping a key, or not, keeps the store tracking the latest writes with that key dropped. -/
theorem Tracks.drop (tracks : Tracks s log) (id : String) (drop : Bool) :
    Tracks (if drop then (s.remove nsCache id).2 else s)
      (fun k => if k = id ∧ drop = true then none else log k) := by
  intro k
  cases drop with
  | false => simpa using tracks k
  | true =>
    by_cases same : k = id
    · subst same
      simp [held]
    · simp [held, same, Ne.symm same, tracks k]

/-- A batch of puts writes each entry in turn, the last of a key winning. -/
theorem onKeyAll_putOps (c : CacheClock) (puts : List (String × Snapshot)) :
    ∀ (log : String → Option Written) (before : String → Option String),
      (∀ k, before k = held log k) →
      ∀ k, Write.onKeyAll (puts.map fun p => putOp c p.1 p.2) nsCache k (before k) =
        held (puts.foldl (fun log p k => if k = p.1 then some (.entry p.2 c.now) else log k) log) k := by
  induction puts with
  | nil => exact fun log before same k => same k
  | cons p puts ih =>
    intro log before same k
    refine ih _ (fun k => (putOp c p.1 p.2).onKey nsCache k (before k)) (fun k => ?_) k
    by_cases here : k = p.1
    · subst here
      simp [putOp, Write.onKey, held, Written.text]
    · simp [putOp, Write.onKey, held, Ne.symm here, here, same k]

theorem putAll_tracks (calm : Calm s) (tracks : Tracks s log) (now : Int)
    (puts : List (String × Snapshot)) :
    Calm ((Op.putAll now puts).apply ttl s) ∧
      Tracks ((Op.putAll now puts).apply ttl s) ((Op.putAll now puts).record ttl log) := by
  have unchecked : ∀ w ∈ puts.map (fun p => putOp { ttl, now } p.1 p.2), w.isRequire = false := by
    intro w mem
    obtain ⟨p, -, rfl⟩ := List.mem_map.mp mem
    rfl
  obtain ⟨s', written, faults, gets⟩ := Store.writeBatch_unchecked calm.batches calm.planted unchecked
  have after : (Op.putAll now puts).apply ttl s = s' := by
    rw [Op.apply, StoreAct.writeBatch_run, written]
  rw [after]
  exact ⟨calm.of_faults faults, fun k => by
    rw [gets]
    exact onKeyAll_putOps { ttl, now } puts log _ tracks k⟩

theorem Op.apply_tracks (calm : Calm s) (tracks : Tracks s log) :
    ∀ op : Op, Calm (op.apply ttl s) ∧ Tracks (op.apply ttl s) (op.record ttl log)
  | .put now id snap => putAll_tracks calm tracks now [(id, snap)]
  | .putAll now puts => putAll_tracks calm tracks now puts
  | .get now id => by
    let drop := (held log id).isSome && (serves { ttl, now } id (held log id)).isNone
    have applied : (Op.get now id).apply ttl s = if drop then (s.remove nsCache id).2 else s := by
      rw [Op.apply, get_spec calm.deletes, tracks id]
      split <;> rfl
    have recorded : (Op.get now id).record ttl log =
        fun k => if k = id ∧ drop = true then none else log k := by
      funext k
      by_cases here : k = id
      · subst here
        rfl
      · simp [Op.record, here]
    rw [applied, recorded]
    exact ⟨calm.of_faults (by split <;> simp), tracks.drop id drop⟩
  | .isFresh now id => by
    let drop := unreadable id (held log id)
    have applied : (Op.isFresh now id).apply ttl s = if drop then (s.remove nsCache id).2 else s := by
      rw [Op.apply, isFresh_spec calm.deletes, tracks id]
      split <;> rfl
    have recorded : (Op.isFresh now id).record ttl log =
        fun k => if k = id ∧ drop = true then none else log k := by
      funext k
      by_cases here : k = id
      · subst here
        rfl
      · simp [Op.record, here]
    rw [applied, recorded]
    exact ⟨calm.of_faults (by split <;> simp), tracks.drop id drop⟩
  | .invalidate (some id) => by
    rw [Op.apply, invalidate_one_spec calm.deletes id]
    refine ⟨calm.of_faults (by simp), ?_⟩
    simpa [Op.record] using tracks.drop id true
  | .invalidate none => by
    rw [Op.apply, invalidate_all_spec]
    have faults : (s.clear nsCache).2.faults = s.faults := by
      unfold Store.clear
      dsimp only
      split <;> simp [Store.setSpace]
    exact ⟨calm.of_faults faults, fun k => by
      simp [Op.record, held, Store.clear_get]⟩
  | .entries => by
    obtain ⟨r, s', es, run, faults, gets⟩ := entries_spec calm.deletes
    rw [Op.apply, run]
    exact ⟨calm.of_faults faults, fun k => by
      simp only [gets, Op.record, tracks k, true_and]
      rw [held_drop]⟩
  | .summary now => by
    obtain ⟨r, s', es, run, summed⟩ := summary_spec calm.deletes { ttl, now }
    obtain ⟨r', s'', es', run', faults, gets⟩ := entries_spec calm.deletes
    rw [run] at run'
    cases run'
    rw [Op.apply, summed]
    exact ⟨calm.of_faults faults, fun k => by
      simp only [gets, Op.record, tracks k, true_and]
      rw [held_drop]⟩
  | .foreignPut id text => by
    refine ⟨calm.of_faults (by simp [Op.apply]), fun k => ?_⟩
    by_cases here : k = id
    · subst here; simp [Op.apply, Op.record, held, Written.text]
    · simp [Op.apply, Op.record, held, here, Ne.symm here, tracks k]
  | .foreignDelete id => by
    refine ⟨calm.of_faults (by simp [Op.apply]), ?_⟩
    simpa [Op.apply, Op.record] using tracks.drop id true

end Step

/-! What a run keeps, and the law it gives. -/

theorem EntriesRepresentable.narrow {log log' : String → Option Written}
    (entries : EntriesRepresentable log)
    (kept : ∀ k snap t, log' k = some (.entry snap t) → log k = some (.entry snap t)) :
    EntriesRepresentable log' :=
  fun k snap t written => entries k snap t (kept k snap t written)

theorem putAll_representable (now : Int) (stamp : i64Min ≤ now ∧ now ≤ i64Max)
    (puts : List (String × Snapshot)) (timed : ∀ p ∈ puts, p.2.TimesValid) :
    ∀ log : String → Option Written, EntriesRepresentable log →
      EntriesRepresentable
        (puts.foldl (fun log p k => if k = p.1 then some (.entry p.2 now) else log k) log) := by
  induction puts with
  | nil => exact fun _ entries => entries
  | cons p puts ih =>
    intro log entries
    refine ih (fun q mem => timed q (List.mem_cons_of_mem p mem)) _ fun k snap t written => ?_
    by_cases here : k = p.1
    · simp only [here, if_true, Option.some.injEq, Written.entry.injEq] at written
      obtain ⟨rfl, rfl⟩ := written
      exact ⟨timed p (List.mem_cons_self ..), stamp⟩
    · simp only [here, if_false] at written
      exact entries k snap t written

theorem Op.record_representable (ttl : Nat) {log : String → Option Written}
    (entries : EntriesRepresentable log) : ∀ op : Op, op.Representable →
      EntriesRepresentable (op.record ttl log)
  | .put now id snap, ⟨stamp, timed⟩ =>
    putAll_representable now stamp [(id, snap)] (by simpa using timed) log entries
  | .putAll now puts, ⟨stamp, timed⟩ => putAll_representable now stamp puts timed log entries
  | .get _ _, _ | .isFresh _ _, _ | .invalidate (some _), _ | .entries, _ | .summary _, _
  | .foreignDelete _, _ => entries.narrow fun k snap t written => by
      simp only [Op.record] at written
      split at written
      · cases written
      · exact written
  | .invalidate none, _ => entries.narrow fun k snap t written => by cases written
  | .foreignPut _ _, _ => entries.narrow fun k snap t written => by
      simp only [Op.record] at written
      split at written
      · cases written
      · exact written

/-- Along any run of steps the store stays calm and tracks the latest writes, whose entries stay
representable. -/
theorem replay_tracks (ttl : Nat) (ops : List Op) (representable : ∀ op ∈ ops, op.Representable) :
    ∀ (s : Store) (log : String → Option Written), Calm s → Tracks s log →
      EntriesRepresentable log →
      Calm (replay ttl ops s) ∧ Tracks (replay ttl ops s) (recordAll ttl ops log) ∧
        EntriesRepresentable (recordAll ttl ops log) := by
  induction ops with
  | nil => exact fun s log calm tracks entries => ⟨calm, tracks, entries⟩
  | cons op ops ih =>
    intro s log calm tracks entries
    obtain ⟨calm', tracks'⟩ := @Op.apply_tracks ttl _ _ calm tracks op
    exact ih (fun o mem => representable o (List.mem_cons_of_mem op mem)) _ _ calm' tracks'
      (Op.record_representable ttl entries op (representable op (List.mem_cons_self ..)))

theorem tracks_foreign (s : Store) : Tracks s fun k => (s.get nsCache k).map .foreign := by
  intro k
  show s.get nsCache k = ((s.get nsCache k).map Written.foreign).map (·.text k)
  cases s.get nsCache k <;> rfl

theorem serves_some_iff (c : CacheClock) (id raw : String) (snap : Snapshot) :
    serves c id (some raw) = some snap ↔
      ∃ e, CacheEntry.decode id raw = .ok e ∧ e.snapshot = snap ∧ isFreshEntry c e = true := by
  cases decoded : CacheEntry.decode id raw with
  | error msg => simp [serves, decoded]
  | ok e =>
    cases fresh : isFreshEntry c e <;> simp [serves, decoded, fresh]

/-- The text of an entry put at a 64-bit clock reading, with a snapshot whose update times the
calendar holds, serves the snapshot while less than the time to live has passed since. -/
theorem serves_entry (c : CacheClock) (id : String) {snap : Snapshot} {t : Int}
    (timed : snap.TimesValid) (stamp : i64Min ≤ t ∧ t ≤ i64Max) :
    serves c id (some ((Written.entry snap t).text id)) =
      if clampI64 (c.now - t) < min (c.ttl : Int) i64Max then some snap else none := by
  have decoded := CacheEntry.decode_compact id ⟨id, snap, t⟩ timed stamp
  simp only [Written.text, serves, decoded, isFreshEntry, decide_eq_true_eq]

/-- The law the cache keeps over the latest writes `log` of its keys: each key serves its latest
write while fresh, and reading drops what serves nothing. -/
structure ServesLatest (ttl : Nat) (s : Store) (log : String → Option Written) : Prop where
  holds : ∀ k, s.get nsCache k = (log k).map (·.text k)
  get_some : ∀ now id snap, ((get { ttl, now } id).run s).1 = .ok (some snap) ↔
    (∃ t, log id = some (.entry snap t) ∧ clampI64 (now - t) < min (ttl : Int) i64Max) ∨
    (∃ text e, log id = some (.foreign text) ∧ CacheEntry.decode id text = .ok e ∧
      e.snapshot = snap ∧ isFreshEntry { ttl, now } e = true)
  get_evicts : ∀ now id, ((get { ttl, now } id).run s).2 =
    if (log id).isSome ∧ ((get { ttl, now } id).run s).1.toOption = some none then
      ((s.remove nsCache id).2, [.cacheEvicted id])
    else (s, [])
  isFresh_answers : ∀ now id, ∃ fresh, ((isFresh { ttl, now } id).run s).1 = .ok fresh ∧
    (fresh = true ↔ ∃ snap, ((get { ttl, now } id).run s).1 = .ok (some snap))
  isFresh_keeps : ∀ now id, ((isFresh { ttl, now } id).run s).2 = (s, []) ∨
    ∃ text msg, log id = some (.foreign text) ∧ CacheEntry.decode id text = .error msg ∧
      ((isFresh { ttl, now } id).run s).2 = ((s.remove nsCache id).2, [.cacheEvicted id])
  invalidate_one : ∀ id, (invalidate (some id)).run s =
    (.ok (if (log id).isSome then 1 else 0), (s.remove nsCache id).2, [])
  invalidate_all : ((invalidate none).run s).1 = .ok (s.keys nsCache).length ∧
    ∀ k, ((invalidate none).run s).2.1.get nsCache k = none
  summary_adds : ∀ now, ∃ m : CacheSummary, ((summary { ttl, now }).run s).1 = .ok m ∧
    m.fresh + m.stale = m.total ∧ ∃ r, (entries.run s).1 = .ok r ∧ m.total = r.length

section Law

variable {ttl : Nat} {s : Store} {log : String → Option Written}

theorem get_some_iff (calm : Calm s) (tracks : Tracks s log) (entries : EntriesRepresentable log)
    (now : Int) (id : String) (snap : Snapshot) :
    ((get { ttl, now } id).run s).1 = .ok (some snap) ↔
      (∃ t, log id = some (.entry snap t) ∧ clampI64 (now - t) < min (ttl : Int) i64Max) ∨
      (∃ text e, log id = some (.foreign text) ∧ CacheEntry.decode id text = .ok e ∧
        e.snapshot = snap ∧ isFreshEntry { ttl, now } e = true) := by
  rw [get_spec calm.deletes, tracks id, Except.ok.injEq]
  cases written : log id with
  | none => simp [held, written, serves]
  | some w =>
    cases w with
    | entry snap' t =>
      obtain ⟨timed, stamp⟩ := entries id snap' t written
      simp only [held, written, Option.map_some, serves_entry _ id timed stamp, Option.some.injEq,
        Written.entry.injEq, reduceCtorEq, false_and, exists_false, or_false]
      by_cases fresh : clampI64 (now - t) < min (ttl : Int) i64Max
      · rw [if_pos fresh, Option.some.injEq]
        constructor
        · rintro rfl
          exact ⟨t, ⟨rfl, rfl⟩, fresh⟩
        · rintro ⟨_, ⟨same, rfl⟩, _⟩
          exact same
      · rw [if_neg fresh]
        simp only [reduceCtorEq, false_iff, not_exists, not_and]
        rintro _ ⟨_, rfl⟩ still
        exact fresh still
    | foreign text =>
      simp only [held, written, Option.map_some, Written.text, serves_some_iff]
      simp

theorem get_evicts_iff (calm : Calm s) (tracks : Tracks s log) (now : Int) (id : String) :
    ((get { ttl, now } id).run s).2 =
      if (log id).isSome ∧ ((get { ttl, now } id).run s).1.toOption = some none then
        ((s.remove nsCache id).2, [.cacheEvicted id])
      else (s, []) := by
  rw [get_spec calm.deletes, tracks id]
  simp [held, Except.toOption]

theorem isFresh_answers_as_get (calm : Calm s) (now : Int) (id : String) :
    ∃ fresh, ((isFresh { ttl, now } id).run s).1 = .ok fresh ∧
      (fresh = true ↔ ∃ snap, ((get { ttl, now } id).run s).1 = .ok (some snap)) := by
  refine ⟨_, by rw [isFresh_spec calm.deletes], ?_⟩
  rw [get_spec calm.deletes]
  simp [Option.isSome_iff_exists]

theorem isFresh_keeps_readable (calm : Calm s) (tracks : Tracks s log)
    (entries : EntriesRepresentable log) (now : Int) (id : String) :
    ((isFresh { ttl, now } id).run s).2 = (s, []) ∨
      ∃ text msg, log id = some (.foreign text) ∧ CacheEntry.decode id text = .error msg ∧
        ((isFresh { ttl, now } id).run s).2 = ((s.remove nsCache id).2, [.cacheEvicted id]) := by
  rw [isFresh_spec calm.deletes, tracks id]
  cases written : log id with
  | none => simp [held, written, unreadable]
  | some w =>
    cases w with
    | entry snap t =>
      obtain ⟨timed, stamp⟩ := entries id snap t written
      left
      simp [held, written, unreadable, Written.text,
        CacheEntry.decode_compact id ⟨id, snap, t⟩ timed stamp, Except.toBool]
    | foreign text =>
      cases decoded : CacheEntry.decode id text with
      | ok e =>
        left
        simp [held, written, unreadable, Written.text, decoded, Except.toBool]
      | error msg =>
        right
        refine ⟨text, msg, rfl, decoded, ?_⟩
        simp [held, written, unreadable, Written.text, decoded, Except.toBool]

theorem summary_adds_up (calm : Calm s) (now : Int) :
    ∃ m : CacheSummary, ((summary { ttl, now }).run s).1 = .ok m ∧
      m.fresh + m.stale = m.total ∧ ∃ r, (entries.run s).1 = .ok r ∧ m.total = r.length := by
  obtain ⟨r, s', es, listed, summed⟩ := summary_spec calm.deletes { ttl, now }
  refine ⟨_, by rw [summed], ?_, r, by rw [listed], rfl⟩
  have := List.length_filter_le (isFreshEntry { ttl, now }) r
  dsimp only
  omega

theorem ServesLatest.of_tracks (calm : Calm s) (tracks : Tracks s log)
    (entries : EntriesRepresentable log) : ServesLatest ttl s log where
  holds := tracks
  get_some := get_some_iff calm tracks entries
  get_evicts := get_evicts_iff calm tracks
  isFresh_answers := isFresh_answers_as_get calm
  isFresh_keeps := isFresh_keeps_readable calm tracks entries
  invalidate_one id := by
    rw [invalidate_one_spec calm.deletes, tracks id]
    simp [held]
  invalidate_all := by
    rw [invalidate_all_spec]
    exact ⟨rfl, Store.clear_get s nsCache⟩
  summary_adds := summary_adds_up calm

end Law

/-- Over any steps on a calm store, whatever it held, the cache keeps its law over the latest
writes, what the store held at first counting as another writer's text. -/
theorem cache_serves_latest_write (ttl : Nat) (ops : List Op)
    (representable : ∀ op ∈ ops, op.Representable) {s : Store} (calm : Calm s) :
    ServesLatest ttl (replay ttl ops s)
      (recordAll ttl ops fun k => (s.get nsCache k).map .foreign) := by
  have entries : EntriesRepresentable fun k => (s.get nsCache k).map Written.foreign := by
    intro k snap t written
    cases held : s.get nsCache k <;> simp [held] at written
  obtain ⟨calm', tracks, entries'⟩ :=
    replay_tracks ttl ops representable s _ calm (tracks_foreign s) entries
  exact ServesLatest.of_tracks calm' tracks entries'

/-- A put of issue `7` and a read of it a millisecond before its time to live runs out. -/
def putThenRead : List Op :=
  [.put 1700000000000 "7" { id := "7", title := some "A" }, .get 1700000299999 "7"]

theorem cache_serves_latest_write_after_put_then_read :
    (∀ op ∈ putThenRead, op.Representable) ∧ Calm ({} : Store) ∧
      ServesLatest 300000 (replay 300000 putThenRead {})
        (recordAll 300000 putThenRead fun k => (({} : Store).get nsCache k).map .foreign) := by
  have representable : ∀ op ∈ putThenRead, op.Representable := by
    intro op mem
    simp only [putThenRead, List.mem_cons, List.not_mem_nil, or_false] at mem
    rcases mem with rfl | rfl
    · exact ⟨by decide, fun t stamped => by simp at stamped⟩
    · trivial
  have calm : Calm ({} : Store) := ⟨rfl, rfl, rfl⟩
  exact ⟨representable, calm, cache_serves_latest_write 300000 putThenRead representable calm⟩

/-- A freshness check is no pure read: it drops another writer's text under `7` that is no
entry, with one `cache_evicted`, and leaves the cache empty. -/
theorem freshness_check_evicts_unreadable_text :
    let after := (isFresh { now := 1700000000000 } "7").run (({} : Store).put nsCache "7" "x")
    after.1 = .ok false ∧ after.2.1.keys nsCache = [] ∧ after.2.2 = [.cacheEvicted "7"] := by
  have held : (({} : Store).put nsCache "7" "x").get nsCache "7" = some "x" := by decide
  have bad : unreadable "7" (some "x") = true := by decide +kernel
  have none : serves { now := 1700000000000 } "7" (some "x") = none := by decide +kernel
  simp only [isFresh_spec (s := ({} : Store).put nsCache "7" "x") rfl, held, bad, none, if_true]
  exact ⟨rfl, by decide, trivial⟩

end Cache

end TrackerSync
