import TrackerSync.Proofs.Store.Rows

/-!
The audit trail of a durable store: a committed batch adds one row per link created or removed
and per base stored, a failed one nothing.
-/

namespace TrackerSync

namespace Write

def auditRows (actor : String) : Write → List AuditRow
  | .put ns key value =>
    if ns = nsLinkLocal then
      [{ entityType := "link", entityId := key, kind := .linkCreated, actor, newValue := some value
         comment := some "write_batch" }]
    else if ns = nsBase then
      [{ entityType := "remote", entityId := key, kind := .syncCommitted, actor
         comment := some "write_batch" }]
    else []
  | .delete ns key =>
    if ns = nsLinkLocal then
      [{ entityType := "link", entityId := key, kind := .linkRemoved, actor
         comment := some "write_batch" }]
    else []
  | .require _ _ _ => []

def HoldsIn (held : String → String → Option String) : Write → Prop
  | .require ns key value => held ns key = value
  | _ => True

/-- Whether every requirement of a batch holds when it is reached, the writes before it applied
in order to the texts `held` gives. -/
def RequiresMet (held : String → String → Option String) : List Write → Prop
  | [] => True
  | w :: ws => w.HoldsIn held ∧ RequiresMet (fun ns key => w.onKey ns key (held ns key)) ws

end Write

namespace Store

/-! One write. -/

@[simp] theorem record_actor (s : Store) (row : AuditRow) : (s.record row).actor = s.actor := by
  unfold record
  split <;> rfl

@[simp] theorem record_durable (s : Store) (row : AuditRow) :
    (s.record row).durable = s.durable := by
  unfold record
  split <;> rfl

theorem record_audit {s : Store} (durable : s.durable = true) (row : AuditRow) :
    (s.record row).audit = row :: s.audit := by
  simp [record, durable]

theorem applyWrite_keeps {s s' : Store} {w : Write} (applied : s.applyWrite w = .ok s') :
    s'.durable = s.durable ∧ s'.actor = s.actor := by
  cases w with
  | put ns key value =>
    simp only [applyWrite] at applied
    split at applied <;> (try split at applied) <;> cases applied <;> simp [put, setSpace]
  | delete ns key =>
    simp only [applyWrite] at applied
    split at applied <;> cases applied <;> simp [remove, setSpace]
  | require ns key value =>
    simp only [applyWrite] at applied
    split at applied <;> cases applied
    exact ⟨rfl, rfl⟩

theorem applyWrite_audit {s s' : Store} (durable : s.durable = true) {w : Write}
    (applied : s.applyWrite w = .ok s') : s'.audit = (w.auditRows s.actor).reverse ++ s.audit := by
  cases w with
  | put ns key value =>
    simp only [applyWrite] at applied
    by_cases link : ns = nsLinkLocal
    · rw [if_pos (by simpa using link)] at applied
      cases applied
      rw [record_audit (by simpa [put, setSpace] using durable)]
      simp [Write.auditRows, link, put, setSpace]
    · rw [if_neg (by simpa using link)] at applied
      by_cases base : ns = nsBase
      · rw [if_pos (by simpa using base)] at applied
        cases applied
        rw [record_audit (by simpa [put, setSpace] using durable), Write.auditRows, if_neg link,
          if_pos base]
        simp [put, setSpace]
      · rw [if_neg (by simpa using base)] at applied
        cases applied
        rw [Write.auditRows, if_neg link, if_neg base]
        simp [put, setSpace]
  | delete ns key =>
    simp only [applyWrite] at applied
    by_cases link : ns = nsLinkLocal
    · rw [if_pos (by simpa using link)] at applied
      cases applied
      rw [record_audit (by simpa [remove, setSpace] using durable)]
      simp [Write.auditRows, link, remove, setSpace]
    · rw [if_neg (by simpa using link)] at applied
      cases applied
      simp [Write.auditRows, link, remove, setSpace]
  | require ns key value =>
    simp only [applyWrite] at applied
    split at applied <;> cases applied
    simp [Write.auditRows]

theorem applyWrite_ok_iff (s : Store) (w : Write) :
    (∃ s', s.applyWrite w = .ok s') ↔ w.HoldsIn s.get := by
  cases w with
  | put ns key value => simp only [applyWrite, Write.HoldsIn, iff_true]; split <;> (try split) <;> simp
  | delete ns key => simp only [applyWrite, Write.HoldsIn, iff_true]; split <;> simp
  | require ns key value =>
    simp only [applyWrite, Write.HoldsIn]
    split
    · next holds => simpa using holds
    · next fails => simpa using fails

/-! A batch applied in order. -/

theorem applyWrites_keeps {s s' : Store} {ws : List Write} (applied : s.applyWrites ws = .ok s') :
    s'.durable = s.durable ∧ s'.actor = s.actor := by
  induction ws generalizing s with
  | nil => cases applied; exact ⟨rfl, rfl⟩
  | cons w rest ih =>
    simp only [applyWrites] at applied
    cases step : s.applyWrite w with
    | error e => rw [step] at applied; cases applied
    | ok s₁ =>
      rw [step] at applied
      obtain ⟨d, a⟩ := applyWrite_keeps step
      obtain ⟨d', a'⟩ := ih applied
      exact ⟨d'.trans d, a'.trans a⟩

/-- Writes applied in order by a durable store add their rows in the order of the writes; the
trail is kept newest first. -/
theorem applyWrites_audit {s s' : Store} (durable : s.durable = true) {ws : List Write}
    (applied : s.applyWrites ws = .ok s') :
    s'.audit = (ws.flatMap (Write.auditRows s.actor)).reverse ++ s.audit := by
  induction ws generalizing s with
  | nil => cases applied; rfl
  | cons w rest ih =>
    simp only [applyWrites] at applied
    cases step : s.applyWrite w with
    | error e => rw [step] at applied; cases applied
    | ok s₁ =>
      rw [step] at applied
      obtain ⟨d, a⟩ := applyWrite_keeps step
      rw [ih (d.trans durable) applied, applyWrite_audit durable step, a]
      simp

/-- Writes applied in order go through exactly when each requirement holds when it is reached. -/
theorem applyWrites_ok_iff (s : Store) (ws : List Write) :
    (∃ s', s.applyWrites ws = .ok s') ↔ Write.RequiresMet s.get ws := by
  induction ws generalizing s with
  | nil => simp [applyWrites, Write.RequiresMet]
  | cons w rest ih =>
    simp only [applyWrites, Write.RequiresMet]
    cases step : s.applyWrite w with
    | error e =>
      have fails : ¬ w.HoldsIn s.get := fun holds => by
        obtain ⟨s', ok⟩ := (applyWrite_ok_iff s w).mpr holds
        rw [step] at ok
        cases ok
      simp [bind, Except.bind, fails]
    | ok s₁ =>
      have holds : w.HoldsIn s.get := (applyWrite_ok_iff s w).mp ⟨s₁, step⟩
      have after : (fun ns key => w.onKey ns key (s.get ns key)) = s₁.get := by
        funext ns key
        exact (applyWrite_get step ns key).symm
      rw [after, ← ih s₁]
      simp [bind, Except.bind, holds]

theorem commitBatch_keeps {s s' : Store} {ws : List Write} (committed : s.commitBatch ws = .ok s') :
    s'.durable = s.durable ∧ s'.actor = s.actor := by
  unfold commitBatch at committed
  split at committed
  · exact applyWrites_keeps committed
  · split at committed
    · cases committed
    · exact applyWrites_keeps committed

/-! A batch as one transaction. -/

/-- The store a batch meets: another writer's planted write, if any, lands first and is used up. -/
def landed (s : Store) : Store :=
  match s.faults.interference with
  | some w =>
    let s := { s with faults := { s.faults with interference := none } }
    match s.commitBatch [w] with
    | .ok s' => s'
    | .error _ => s
  | none => s

theorem landed_of_calm {s : Store} (calm : s.faults.interference = none) : s.landed = s := by
  simp [landed, calm]

theorem landed_keeps (s : Store) : s.landed.durable = s.durable ∧ s.landed.actor = s.actor := by
  unfold landed
  split
  · dsimp only
    split
    · next s' committed =>
      have kept := commitBatch_keeps committed
      exact kept
    · exact ⟨rfl, rfl⟩
  · exact ⟨rfl, rfl⟩

theorem writeBatch_landed (s : Store) (ws : List Write) :
    s.writeBatch ws = if s.landed.faults.failBatches then (s.landed, some diskFull)
      else match s.landed.commitBatch ws with
        | .ok s' => (s', none)
        | .error e => (s.landed, some e) := by
  unfold writeBatch landed
  cases s.faults.interference <;> rfl

section Durable

variable {s : Store} (durable : s.durable = true) (ws : List Write)
include durable

theorem commitBatch_durable : s.commitBatch ws = s.applyWrites ws := by
  simp [commitBatch, durable]

/-- A durable store's batch commits exactly when the store takes batches and each requirement
holds when it is reached. -/
theorem writeBatch_commits_iff :
    (s.writeBatch ws).2 = none ↔
      s.landed.faults.failBatches = false ∧ Write.RequiresMet s.landed.get ws := by
  rw [writeBatch_landed, commitBatch_durable ((landed_keeps s).1.trans durable),
    ← applyWrites_ok_iff]
  split
  · next failing => simp [failing]
  · next taking =>
    simp only [taking, true_and]
    split
    · next s' applied => simp [applied]
    · next e refused => simp [refused]

/-- A durable store's batch that commits adds its rows, in the order of its writes, to the trail
of the store it met. -/
theorem writeBatch_audit (committed : (s.writeBatch ws).2 = none) :
    (s.writeBatch ws).1.audit = (ws.flatMap (Write.auditRows s.actor)).reverse ++ s.landed.audit := by
  have met := landed_keeps s
  rw [writeBatch_landed, commitBatch_durable (met.1.trans durable)] at committed ⊢
  split at committed
  · cases committed
  · next taking =>
    rw [if_neg taking]
    split at committed
    · next s' applied =>
      rw [applyWrites_audit (met.1.trans durable) applied, met.2]
    · cases committed

end Durable

/-- A batch that fails leaves the store as it met it: keys, rows and trail. -/
theorem writeBatch_refused (s : Store) (ws : List Write) (failed : (s.writeBatch ws).2 ≠ none) :
    (s.writeBatch ws).1 = s.landed := by
  rw [writeBatch_landed] at failed ⊢
  split
  · rfl
  · next taking =>
    rw [if_neg taking] at failed
    split
    · next s' committed => rw [committed] at failed; exact absurd rfl failed
    · rfl

/-- A batch that commits leaves each key with what its writes, in order, make of the text the
key held in the store the batch met. -/
theorem writeBatch_get_landed (s : Store) (ws : List Write) (committed : (s.writeBatch ws).2 = none)
    (ns key : String) :
    (s.writeBatch ws).1.get ns key = Write.onKeyAll ws ns key (s.landed.get ns key) := by
  rw [writeBatch_landed] at committed ⊢
  exact @batchOn_get s.landed _ ws (Prod.ext rfl committed) ns key

/-! Local items and clearing. -/

/-- Saving an item into a durable store records that it was created, when no row had its id, or
that it was updated, with the old status column and the new status. -/
theorem saveEntity_audit {s : Store} (durable : s.durable = true) (e : Entity) :
    (s.saveEntity e).audit = (if s.hasRow e.id then
        { entityType := e.kind.name, entityId := e.id, kind := .entityUpdated, actor := s.actor
          oldValue := s.statusOf? e.id, newValue := some e.status, comment := some "save_entity" }
      else
        { entityType := e.kind.name, entityId := e.id, kind := .entityCreated, actor := s.actor
          comment := some "save_entity" } : AuditRow) :: s.audit := by
  unfold saveEntity
  dsimp only
  rw [record_audit (by rw [keepItem_eq]; exact durable), keepItem_eq]

theorem save_audit {s s' : Store} (durable : s.durable = true) {e : Entity}
    (saved : s.save e = .ok s') :
    s'.audit = (if s.hasRow e.id then
        { entityType := e.kind.name, entityId := e.id, kind := .entityUpdated, actor := s.actor
          oldValue := s.statusOf? e.id, newValue := some e.status, comment := some "save_entity" }
      else
        { entityType := e.kind.name, entityId := e.id, kind := .entityCreated, actor := s.actor
          comment := some "save_entity" } : AuditRow) :: s.audit := by
  unfold save at saved
  split at saved
  · cases saved
  · cases saved
    rw [saveEntity_audit (by exact durable)]
    rfl
  · cases saved
    exact saveEntity_audit durable e

/-- The kind column of every stored row holds text, as the table's `NOT NULL` text column forces
on every row, however it was written. -/
def KindsStored (s : Store) : Prop :=
  ∀ id cells, s.strays.get? id = some cells → (Entity.cellAt cells 1).text?.isSome

theorem kindTextOf?_isSome {s : Store} (kinds : s.KindsStored) (id : String) :
    (s.kindTextOf? id).isSome = s.hasRow id := by
  rw [hasRow_eq]
  unfold kindTextOf? rowAt
  cases held : s.entities.get? id with
  | some e => simp
  | none =>
    cases stray : s.strays.get? id with
    | none => simp
    | some cells => simpa [stray] using kinds id cells stray

/-- Removing an item says whether there was a row, and records the removal, with the row's kind,
exactly when there was one. -/
theorem removeEntity_audit {s : Store} (durable : s.durable = true) (id : String) :
    (s.removeEntity id).1 = (s.kindTextOf? id).isSome ∧
    (s.removeEntity id).2.audit =
      ((s.kindTextOf? id).map fun kind =>
        ({ entityType := kind, entityId := id, kind := .entityRemoved, actor := s.actor
           comment := some "remove_entity" } : AuditRow)).toList ++ s.audit := by
  unfold removeEntity
  split
  · next none => simp [none]
  · next kind some =>
    refine ⟨by simp [some], ?_⟩
    rw [record_audit (by exact durable), some]
    rfl

/-- Clearing a namespace removes every key of it and says how many; a durable store records the
clearing exactly when the namespace is the cache and a key was removed. -/
theorem clear_audit {s : Store} (durable : s.durable = true) (ns : String) :
    (s.clear ns).1 = (s.keys ns).length ∧
    (s.clear ns).2.audit =
      (if ns = nsCache ∧ 0 < (s.keys ns).length then
        [({ entityType := "cache", entityId := "*", kind := .cacheCleared, actor := s.actor
            comment := some "clear_namespace" } : AuditRow)] else []) ++ s.audit := by
  have count : (s.keys ns).length = (s.space ns).size := by simp [keys, Table.keys, Table.size]
  rw [count]
  unfold clear
  dsimp only
  refine ⟨rfl, ?_⟩
  by_cases cache : ns = nsCache ∧ 0 < (s.space ns).size
  · rw [if_pos (by simpa using cache), if_pos cache, record_audit (by simpa [setSpace] using durable)]
    rfl
  · rw [if_neg (by simpa using cache), if_neg cache]
    rfl

/-- The audit trail of a durable store records exactly the mutations it commits: batches, saves,
removals and clearings, each as one row in order, and nothing for what fails. -/
theorem durable_store_audits_commits (s : Store) (durable : s.durable = true)
    (kinds : s.KindsStored) (ws : List Write) (e : Entity) (id ns : String) :
    ((s.writeBatch ws).2 = none ↔
      s.landed.faults.failBatches = false ∧ Write.RequiresMet s.landed.get ws) ∧
    ((s.writeBatch ws).2 = none →
      (s.writeBatch ws).1.audit = (ws.flatMap (Write.auditRows s.actor)).reverse ++ s.landed.audit ∧
      ∀ ns key, (s.writeBatch ws).1.get ns key = Write.onKeyAll ws ns key (s.landed.get ns key)) ∧
    ((s.writeBatch ws).2 ≠ none → (s.writeBatch ws).1 = s.landed) ∧
    (∀ s', s.save e = .ok s' →
      s'.audit = (if s.hasRow e.id then
          { entityType := e.kind.name, entityId := e.id, kind := .entityUpdated, actor := s.actor
            oldValue := s.statusOf? e.id, newValue := some e.status, comment := some "save_entity" }
        else
          { entityType := e.kind.name, entityId := e.id, kind := .entityCreated, actor := s.actor
            comment := some "save_entity" } : AuditRow) :: s.audit) ∧
    ((s.removeEntity id).1 = s.hasRow id ∧ (s.kindTextOf? id).isSome = s.hasRow id ∧
      (s.removeEntity id).2.audit =
        ((s.kindTextOf? id).map fun kind =>
          ({ entityType := kind, entityId := id, kind := .entityRemoved, actor := s.actor
             comment := some "remove_entity" } : AuditRow)).toList ++ s.audit) ∧
    ((s.clear ns).1 = (s.keys ns).length ∧
      (s.clear ns).2.audit =
        (if ns = nsCache ∧ 0 < (s.keys ns).length then
          [({ entityType := "cache", entityId := "*", kind := .cacheCleared, actor := s.actor
              comment := some "clear_namespace" } : AuditRow)] else []) ++ s.audit) := by
  have removed := removeEntity_audit durable id
  have rows := kindTextOf?_isSome kinds id
  refine ⟨writeBatch_commits_iff durable ws,
    fun committed => ⟨writeBatch_audit durable ws committed, writeBatch_get_landed s ws committed⟩,
    writeBatch_refused s ws, fun s' saved => save_audit durable saved,
    ⟨removed.1.trans rows, rows, removed.2⟩, clear_audit durable ns⟩

/-- A link and its base committed in one batch with a requirement on the link just written: the
batch commits, and the trail gains the link's row and then the base's. -/
theorem durable_store_audits_commits_on_link_commit :
    let s : Store := { durable := true }
    let ws : List Write :=
      [.put nsLinkLocal "L1" "7", .put nsBase "7" "{}", .require nsLinkLocal "L1" (some "7")]
    s.durable = true ∧ s.KindsStored ∧ (s.writeBatch ws).2 = none ∧
      (s.writeBatch ws).1.audit =
        [{ entityType := "remote", entityId := "7", kind := .syncCommitted, actor := "tl"
           comment := some "write_batch" },
         { entityType := "link", entityId := "L1", kind := .linkCreated, actor := "tl"
           newValue := some "7", comment := some "write_batch" }] := by
  intro s ws
  have kinds : s.KindsStored := fun _ _ held => by cases held
  have committed : (s.writeBatch ws).2 = none := by decide
  refine ⟨rfl, kinds, committed, ?_⟩
  rw [((durable_store_audits_commits s rfl kinds ws default "L1" nsCache).2.1 committed).1]
  rfl

end Store

end TrackerSync
