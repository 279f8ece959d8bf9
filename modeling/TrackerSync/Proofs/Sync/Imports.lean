import TrackerSync.Proofs.Sync.Accounting
import TrackerSync.Proofs.Sync.Edits
import TrackerSync.Proofs.Sync.DryRun

/-!
Imports link each remote item once: the link table stays a bijection, a run that writes reports
each remote id created at most once, and every new local item is linked, its import failed and
kept only where removals fail.
-/

namespace TrackerSync

namespace Store

def RowKeyed (id : String) (row : Option Entity × Option (List Cell)) : Prop :=
  (∀ e, row.1 = some e → e.id = id) ∧
    ∀ cells e, row.2 = some cells → Entity.ofRow cells = .ok e → e.id = id

/-- Every stored row is kept under the id of the item it reads as, as a table keyed by the id
column keeps it. -/
def ItemsKeyed (s : Store) : Prop := ∀ id, RowKeyed id (s.rowAt id)

def LinksKept (s s' : Store) : Prop :=
  ∀ ns key raw, ns = nsLinkLocal ∨ ns = nsLinkRemote → s.get ns key = some raw →
    s'.get ns key = some raw

theorem rowKeyed_item (e : Entity) : RowKeyed e.id (some e, none) :=
  ⟨fun _ held => (by cases held; rfl), fun _ _ held => (by cases held)⟩

theorem rowKeyed_none (id : String) : RowKeyed id (none, none) :=
  ⟨fun _ held => (by cases held), fun _ _ held => (by cases held)⟩

/-- An item loaded from a keyed store carries the id it was loaded by, and has a row there. -/
theorem ItemsKeyed.load {s : Store} (keyed : s.ItemsKeyed) {id : String} {e : Entity}
    (loaded : s.load id = .ok (some e)) : e.id = id ∧ s.hasRow id = true := by
  unfold Store.load at loaded
  split at loaded
  · cases loaded
  · split at loaded
    · next cells stray =>
      cases decoded : Entity.ofRow cells with
      | error msg => simp [decoded, Except.map, Except.mapError] at loaded
      | ok e' =>
        simp only [decoded, Except.map, Except.mapError, Except.ok.injEq, Option.some.injEq]
          at loaded
        subst loaded
        refine ⟨(keyed id).2 cells e' stray decoded, ?_⟩
        rw [hasRow_eq]
        simp [rowAt, stray]
    · next none =>
      have held : s.entities.get? id = some e := by simpa using loaded
      refine ⟨(keyed id).1 e held, ?_⟩
      rw [hasRow_eq]
      simp [rowAt, held]

theorem ItemsKeyed.of_rowAt {s s' : Store} (keyed : s.ItemsKeyed) {own : String}
    (rows : ∀ id, id ≠ own → s'.rowAt id = s.rowAt id) (ownKeyed : RowKeyed own (s'.rowAt own)) :
    s'.ItemsKeyed := by
  intro id
  by_cases same : id = own
  · rw [same]
    exact ownKeyed
  · rw [rows id same]
    exact keyed id

theorem LinksKept.refl (s : Store) : LinksKept s s := fun _ _ _ _ held => held

theorem LinksKept.trans {s₁ s₂ s₃ : Store} (first : LinksKept s₁ s₂) (second : LinksKept s₂ s₃) :
    LinksKept s₁ s₃ :=
  fun ns key raw linkSpace held => second ns key raw linkSpace (first ns key raw linkSpace held)

theorem LinksKept.of_get {s s' : Store}
    (same : ∀ ns key, ns = nsLinkLocal ∨ ns = nsLinkRemote → s'.get ns key = s.get ns key) :
    LinksKept s s' :=
  fun ns key _ linkSpace held => (same ns key linkSpace).trans held

/-- A remote id linked in `s` is linked to the same local id in a store that kept its links. -/
theorem LinksKept.localFor {s s' : Store} (kept : LinksKept s s') {r l : String}
    (linked : Links.localFor s r = .ok (some l)) : Links.localFor s' r = .ok (some l) := by
  cases held : s.get nsLinkRemote r with
  | none => simp [Links.localFor, Links.read, held, Except.map] at linked
  | some raw =>
    unfold Links.localFor Links.read at linked ⊢
    rw [kept _ _ _ (.inr rfl) held]
    rw [held] at linked
    exact linked

theorem get_of_localFor {s : Store} {r l : String} (linked : Links.localFor s r = .ok (some l)) :
    s.get nsLinkRemote r ≠ none := by
  intro free
  simp [Links.localFor, Links.read, free, Except.map] at linked

/-- A remote id whose entry holds a link record reads as linked to the record's local id. -/
theorem localFor_of_text {s : Store} {l r : String} {now : Int} (stamp : LinkRecord.StampFits now)
    (held : s.get nsLinkRemote r = some (LinkRecord.mk l r now).text) :
    Links.localFor s r = .ok (some l) := by
  simp [Links.localFor, Links.read, held, LinkRecord.decode_text ⟨l, r, now⟩ stamp, Except.map]

/-- In a bijective table, a remote id that does not read as linked has no entry. -/
theorem LinksBijective.free {s : Store} (bij : s.LinksBijective) {r : String}
    (unlinked : (Links.localFor s r).toOption.join = none) : s.get nsLinkRemote r = none := by
  cases held : s.get nsLinkRemote r with
  | none => rfl
  | some raw =>
    obtain ⟨rec, decoded, -, -⟩ := bij.fromRemote r raw held
    simp [Links.localFor, Links.read, held, decoded, Except.map, Except.toOption] at unlinked

/-- A remote id linked in a bijective table names a local id linked back to it. -/
theorem LinksBijective.remoteFor {s : Store} (bij : s.LinksBijective) {r l : String}
    (linked : Links.localFor s r = .ok (some l)) : Links.remoteFor s l = .ok (some r) := by
  cases held : s.get nsLinkRemote r with
  | none => simp [Links.localFor, Links.read, held, Except.map] at linked
  | some raw =>
    obtain ⟨rec, decoded, named, other⟩ := bij.fromRemote r raw held
    simp only [Links.localFor, Links.read, held, decoded, Except.map, Except.ok.injEq,
      Option.map_some, Option.some.injEq] at linked
    subst linked named
    simp [Links.remoteFor, Links.read, other, decoded, Except.map]

end Store

namespace Links

/-- A commit against a bijective table keeps every link entry: a new link is written only where
both ids are free. -/
theorem commitWith_kept {s : Store} (calm : s.faults.interference = none) (bij : s.LinksBijective)
    {l r : String} {extra : List Write} {now : Int} (outside : ∀ w ∈ extra, w.OutsideLinks) :
    s.LinksKept (commitWith s l r extra now).1 := by
  rcases commitWith_store s l r extra now with same | ⟨ops, planned, after⟩
  · rw [same]
    exact .refl s
  rw [after]
  rcases Store.writeBatch_cases calm (ops ++ extra) with same | committed
  · rw [same]
    exact .refl s
  intro ns key raw linkSpace held
  rw [Store.commitBatch_get committed, Write.onKeyAll_append, Write.onKeyAll_outside outside linkSpace]
  rcases linkOps_cases planned with ⟨rawL, rawR, rfl⟩ | ⟨heldL, heldR, rfl, apart, sideL, sideR⟩
  · exact held
  · obtain ⟨freeL, freeR⟩ := bij.newLink_free apart sideL sideR committed
    rcases linkSpace with rfl | rfl
    · rw [newLinkWrites_local, if_neg]
      · exact held
      · rintro rfl
        rw [freeL] at held
        cases held
    · rw [newLinkWrites_remote, if_neg]
      · exact held
      · rintro rfl
        rw [freeR] at held
        cases held

theorem commitWith_bijective {s : Store} (calm : s.faults.interference = none)
    (bij : s.LinksBijective) {l r : String} {extra : List Write} {now : Int}
    (stamp : LinkRecord.StampFits now) (outside : ∀ w ∈ extra, w.OutsideLinks) :
    (commitWith s l r extra now).1.LinksBijective := by
  rcases commitWith_store s l r extra now with same | ⟨ops, planned, after⟩
  · rw [same]
    exact bij
  · rw [after]
    exact Store.linkBatch_bijective calm bij planned stamp outside

theorem commitWith_calm {s : Store} (calm : s.faults.interference = none) (l r : String)
    (extra : List Write) (now : Int) : (commitWith s l r extra now).1.faults.interference = none := by
  rw [commitWith_faults calm, calm]

/-- A commit that succeeds for a remote id with no entry links it to the local id. -/
theorem commitWith_links {s : Store} (calm : s.faults.interference = none) {l r : String}
    {extra : List Write} {now : Int} (free : s.get nsLinkRemote r = none)
    (stamp : LinkRecord.StampFits now) (outside : ∀ w ∈ extra, w.OutsideLinks)
    (done : (commitWith s l r extra now).2 = .ok ()) :
    Links.localFor (commitWith s l r extra now).1 r = .ok (some l) := by
  cases planned : linkOps s l r now with
  | error e => simp [commitWith, planned] at done
  | ok ops =>
    obtain ⟨heldL, rfl⟩ := linkOps_unlinked free planned
    have writes : (newLinkWrites l r (LinkRecord.mk l r now).text heldL none ++ extra).all
        Write.isRequire = false := by
      simp [newLinkWrites, Write.isRequire]
    have committed := commitWith_committed calm planned writes done
    refine Store.localFor_of_text stamp ?_
    rw [Store.commitBatch_get committed, Write.onKeyAll_append,
      Write.onKeyAll_outside outside (.inr rfl), newLinkWrites_remote, if_pos rfl]

end Links

def createdIds (reps : List EntityReport) : List String :=
  (reps.filter (·.outcome = .created)).map (·.remoteId)

theorem createdIds_append (reps more : List EntityReport) :
    createdIds (reps ++ more) = createdIds reps ++ createdIds more := by
  simp [createdIds, List.filter_append]

theorem createdIds_single {rep : EntityReport} (other : rep.outcome ≠ .created) :
    createdIds [rep] = [] := by
  simp [createdIds, other]

theorem mem_createdIds {reps : List EntityReport} {r : String} :
    r ∈ createdIds reps ↔ ∃ rep ∈ reps, rep.outcome = .created ∧ rep.remoteId = r := by
  simp [createdIds, and_assoc]

theorem createdIds_perm {reps reps' : List EntityReport} (perm : reps.Perm reps') :
    (createdIds reps).Perm (createdIds reps') :=
  (perm.filter _).map _

/-- What a run keeps of the store `s` it has come to, from the store `s₀` it started from, over
the reports `reps` of the entities processed so far. -/
structure ImportsSound (s₀ s : Store) (reps : List EntityReport) : Prop where
  bijective : s.LinksBijective
  calm : s.faults.interference = none
  keyed : s.ItemsKeyed
  /-- An entity reported created has its remote id linked to the local id of its report. -/
  created : ∀ rep ∈ reps, rep.outcome = .created →
    ∃ l, rep.localId = some l ∧ Links.localFor s rep.remoteId = .ok (some l)
  once : (createdIds reps).Nodup
  /-- A row the run added is the local item of an entity reported created, or, where removals
  fail, of one reported failed. -/
  fresh : ∀ id, s.hasRow id = true → s₀.hasRow id = false →
    ∃ rep ∈ reps, (rep.outcome = .created ∨ rep.outcome = .failed ∧ s₀.faults.failRemoves = true) ∧
      rep.localId = some id
  removes : s.faults.failRemoves = s₀.faults.failRemoves

namespace ImportsSound

variable {s₀ s s' : Store} {reps : List EntityReport} {rep : EntityReport}

theorem start (bijective : s₀.LinksBijective) (calm : s₀.faults.interference = none)
    (keyed : s₀.ItemsKeyed) : ImportsSound s₀ s₀ [] where
  bijective := bijective
  calm := calm
  keyed := keyed
  created _ mem := nomatch mem
  once := List.nodup_nil
  fresh _ had hadNot := by rw [had] at hadNot; cases hadNot
  removes := rfl

/-- One entity processed: its report is added, and the store moves to `s'`, which keeps every
link and the fault on removals and adds no row but the local item of its report, when that is
created (its remote id then linked where there was no link) or failed while removals fail. -/
theorem step (sound : ImportsSound s₀ s reps) (bijective : s'.LinksBijective)
    (calm : s'.faults.interference = none) (keyed : s'.ItemsKeyed) (kept : s.LinksKept s')
    (removes : s'.faults.failRemoves = s.faults.failRemoves)
    (created : rep.outcome = .created → s.get nsLinkRemote rep.remoteId = none ∧
      ∃ l, rep.localId = some l ∧ Links.localFor s' rep.remoteId = .ok (some l))
    (rows : ∀ id, s'.hasRow id = true → s.hasRow id = true ∨
      (rep.outcome = .created ∨ rep.outcome = .failed ∧ s.faults.failRemoves = true) ∧
        rep.localId = some id) :
    ImportsSound s₀ s' (reps ++ [rep]) where
  bijective := bijective
  calm := calm
  keyed := keyed
  created rep' mem isCreated := by
    rcases List.mem_append.mp mem with old | new
    · obtain ⟨l, named, linked⟩ := sound.created rep' old isCreated
      exact ⟨l, named, kept.localFor linked⟩
    · rw [List.mem_singleton.mp new] at isCreated ⊢
      exact (created isCreated).2
  once := by
    rw [createdIds_append]
    by_cases isCreated : rep.outcome = .created
    · have single : createdIds [rep] = [rep.remoteId] := by simp [createdIds, isCreated]
      rw [single, List.nodup_append]
      refine ⟨sound.once, by simp, fun r old r' new same => ?_⟩
      -- an earlier created entity's remote id is linked, this one's was not
      obtain ⟨rep', mem, wasCreated, named⟩ := mem_createdIds.mp old
      obtain ⟨l, -, linked⟩ := sound.created rep' mem wasCreated
      have free := (created isCreated).1
      rw [← List.mem_singleton.mp new, ← same, ← named] at free
      exact Store.get_of_localFor linked free
    · rw [createdIds_single isCreated, List.append_nil]
      exact sound.once
  fresh id has new := by
    rcases rows id has with old | ⟨reported, named⟩
    · obtain ⟨rep', mem, reported, named⟩ := sound.fresh id old new
      exact ⟨rep', List.mem_append_left _ mem, reported, named⟩
    · -- the fault on removals is the one the run started with
      rw [sound.removes] at reported
      exact ⟨rep, List.mem_append_right _ (List.mem_singleton_self rep), reported, named⟩
  removes := removes.trans sound.removes

/-- An entity that was not reported created, whose processing kept every link and added no
row. -/
theorem tame (sound : ImportsSound s₀ s reps) (bijective : s'.LinksBijective)
    (calm : s'.faults.interference = none) (kept : s.LinksKept s') (keyed : s'.ItemsKeyed)
    (removes : s'.faults.failRemoves = s.faults.failRemoves)
    (rows : ∀ id, s'.hasRow id = true → s.hasRow id = true) (other : rep.outcome ≠ .created) :
    ImportsSound s₀ s' (reps ++ [rep]) :=
  sound.step bijective calm keyed kept removes (fun created => absurd created other)
    fun id has => .inl (rows id has)

end ImportsSound

theorem Store.hasRow_of_rowAt {s s' : Store} {own : String}
    (rows : ∀ id, id ≠ own → s'.rowAt id = s.rowAt id)
    (ownRow : s'.hasRow own = true → s.hasRow own = true) :
    ∀ id, s'.hasRow id = true → s.hasRow id = true := by
  intro id has
  by_cases same : id = own
  · rw [same] at has ⊢
    exact ownRow has
  · rwa [Store.hasRow_eq, rows id same, ← Store.hasRow_eq] at has

theorem Store.writeBatch_links {s : Store} (calm : s.faults.interference = none) {ws : List Write}
    (outside : ∀ w ∈ ws, w.OutsideLinks) {ns : String} (linkSpace : ns = nsLinkLocal ∨ ns = nsLinkRemote)
    (key : String) : (s.writeBatch ws).1.get ns key = s.get ns key := by
  rcases writeBatch_cases calm ws with same | committed
  · rw [same]
  · rw [commitBatch_get committed, Write.onKeyAll_outside outside linkSpace]

namespace Plan

theorem Saves.get {q : Plan} {now : Int} {s saved : Store} (saves : q.Saves now s saved) :
    saved.get = s.get := by
  unfold Saves at saves
  split at saves
  · exact Store.save_get saves
  · rw [saves]

theorem commitWrites_outside (q : Plan) (d : Detection) (clock : CacheClock) (remoteAfter : Snapshot)
    (now : Int) : ∀ w ∈ q.commitWrites d clock remoteAfter now, w.OutsideLinks := by
  intro w mem
  simp only [commitWrites, List.mem_cons, List.not_mem_nil, or_false] at mem
  rcases mem with rfl | rfl | rfl
  all_goals
    simp only [Write.OutsideLinks, Cache.putOp, SyncState.baseOp, SyncState.conflictsOp]
    try split
    all_goals simp [Write.target, nsCache, nsBase, nsConflicts, nsLinkLocal, nsLinkRemote]

theorem compensated_get (q : Plan) (localWritten : Bool) (s : Store) {ns : String}
    (linkSpace : ns = nsLinkLocal ∨ ns = nsLinkRemote) (key : String) :
    (q.compensated localWritten s).get ns key = s.get ns key := by
  have other : (ns, key) ≠ (nsCache, q.remoteId) := by
    rcases linkSpace with rfl | rfl <;> simp [nsCache, nsLinkLocal, nsLinkRemote]
  unfold compensated
  split
  · rw [restore_get, invalidated_get q s other]
  · exact invalidated_get q s other

theorem compensated_calm (q : Plan) (localWritten : Bool) {s : Store}
    (calm : s.faults.interference = none) :
    (q.compensated localWritten s).faults.interference = none := by
  obtain ⟨n, faults⟩ := q.compensated_faults localWritten s
  rw [faults]
  exact calm

theorem OwnRow.keyed {q : Plan} (localId : q.localId = q.pairing.entity.id)
    {before after : Option Entity × Option (List Cell)} (wasKeyed : Store.RowKeyed q.localId before)
    (own : q.OwnRow before after) : Store.RowKeyed q.localId after := by
  rcases own with same | ⟨e, linked, putBack⟩ | ⟨-, removed⟩ | ⟨now, updated⟩
  · rw [same]
    exact wasKeyed
  · have named : e.id = q.localId := by rw [localId, linked]; rfl
    rw [putBack, ← named]
    exact Store.rowKeyed_item e
  · rw [removed]
    exact Store.rowKeyed_none _
  · rw [updated, localId, ← updated_id q now]
    exact Store.rowKeyed_item _

theorem reportOf_created {q : Plan} {result : Except Error Unit}
    (created : (q.reportOf result).outcome = .created) :
    result = .ok () ∧ q.pairing.isImport = true ∧ q.detection.isSome = true := by
  cases result with
  | error e => simp [reportOf] at created
  | ok u =>
    refine ⟨rfl, ?_⟩
    simp only [reportOf, report, outcome] at created
    split at created
    · cases created
    · next detected =>
      split at created
      · exact ⟨‹_›, by rw [detected]; rfl⟩
      · split_ifs at created

end Plan

namespace SyncM

def KeepsClock {α : Type} (act : SyncM α) : Prop :=
  ∀ w, (StateT.run act w).2.wallClock = w.wallClock

section Clock

variable {α β : Type} {r : Runner}

theorem KeepsClock.pure (a : α) : KeepsClock (Pure.pure a : SyncM α) := fun _ => rfl

theorem KeepsClock.get : KeepsClock (MonadState.get : SyncM World) := fun _ => rfl

theorem KeepsClock.bind {x : SyncM α} {f : α → SyncM β} (first : KeepsClock x)
    (next : ∀ a, KeepsClock (f a)) : KeepsClock (x >>= f) := by
  intro w
  rw [run_bind, next, first]

theorem KeepsClock.of_effect {f : Store → Store} {sent : List Remote.Sent} {act : SyncM α}
    (effect : Effect f sent act) : KeepsClock act :=
  fun w => (effect w).2.2.2

theorem KeepsClock.emit (e : Event) : KeepsClock (emit e) := .of_effect (Effect.emit e)

theorem KeepsClock.emitAll (es : List Event) : KeepsClock (emitAll es) :=
  .of_effect (Effect.emitAll es)

theorem KeepsClock.localFor (remoteId : String) : KeepsClock (localFor remoteId) := fun _ => rfl

theorem KeepsClock.setPhase (alone : ∀ w, r.onApply w = w) (p : Phase) :
    KeepsClock (setPhase r p) := by
  refine .bind (fun _ => rfl) fun _ => .bind (.emit _) fun _ => ?_
  cases p
  case apply => exact fun w => congrArg World.wallClock (alone w)
  all_goals exact .pure ()

theorem KeepsClock.fetchPages (logged : r.Logged) (endpoint : String) (params : Remote.Params)
    (perPage maxPages : Nat) :
    ∀ left page acc,
      KeepsClock (Remote.fetchPages r.send SyncM.emit endpoint params perPage maxPages left page acc)
  | 0, _, _ => .pure _
  | left + 1, page, acc => by
    rw [Remote.fetchPages]
    refine .bind (.of_effect (Effect.send logged _ _ _)) fun answer => ?_
    split
    · exact .pure _
    · refine .bind (.emit _) fun _ => ?_
      split
      · exact .pure _
      · split
        · exact .pure _
        · split
          · exact .bind (.emit _) fun _ => .pure _
          · exact KeepsClock.fetchPages logged endpoint params perPage maxPages left (page + 1) _

theorem KeepsClock.normalizeItems (items : List Json) : KeepsClock (normalizeItems items) := by
  induction items with
  | nil => exact .pure _
  | cons item rest ih =>
    rw [SyncM.normalizeItems]
    refine .bind ?_ fun head => .bind ih fun _ => ?_
    · unfold normalizeItem
      refine .bind (.emitAll _) fun _ => ?_
      split
      · exact .pure _
      · exact .bind (.localFor _) fun _ => .pure _
    · split
      cases head <;> exact .pure _

theorem KeepsClock.plan (kind : Kind) (remote : Snapshot) (targeted : Bool) :
    KeepsClock (plan r kind remote targeted) := by
  unfold SyncM.plan SyncM.pair
  refine .bind (.bind .get fun w => ?_) fun paired => ?_
  · split
    · exact .pure _
    · split <;> exact .pure _
    · split
      · exact .bind (fun _ => rfl) fun _ => .bind .get fun _ => .pure _
      · exact .pure _
  · split
    · exact .pure _
    · exact .pure _
    · refine .bind (.emitAll _) fun _ => .bind .get fun _ => ?_
      split <;> exact .pure _

theorem KeepsClock.planAll (kind : Kind) (targeted : Bool) (remotes : List Snapshot) :
    KeepsClock (planAll r kind targeted remotes) := by
  induction remotes with
  | nil => exact .pure _
  | cons remote rest ih =>
    rw [SyncM.planAll]
    refine .bind (.plan kind remote targeted) fun head => .bind ih fun _ => ?_
    split
    rcases head with _ | _ | _ <;> exact .pure _

theorem KeepsClock.refresh (kind : Kind) (p : Plan) : KeepsClock (refresh r kind p) := by
  unfold SyncM.refresh
  refine .bind .get fun _ => .bind (.localFor _) fun _ => ?_
  -- whichever side the plan has, it is kept or planned anew
  split
  all_goals
    dsimp only
    split
    · exact .pure _
    · exact .plan _ _ _

theorem KeepsClock.refreshCache (p : Plan) : KeepsClock (refreshCache r p) :=
  .bind (fun _ => rfl) fun _ => .bind (.of_effect (Effect.store _)) fun _ => .pure _

theorem KeepsClock.saveLocal (p : Plan) (toLocal : List FieldChange) :
    KeepsClock (saveLocal p toLocal) := by
  intro w
  unfold SyncM.saveLocal
  rw [run_bind, run_get]
  dsimp only
  split <;> rfl

theorem KeepsClock.commit (p : Plan) (remoteAfter : Snapshot) (nextBase : StoredBase)
    (conflicts : ConflictSet) : KeepsClock (commit r p remoteAfter nextBase conflicts) :=
  fun _ => rfl

theorem KeepsClock.apply (logged : r.Logged) (collection : Collection) (q : Plan) :
    KeepsClock (apply r collection q) := by
  unfold SyncM.apply
  split
  · exact .bind (.refreshCache q) fun _ => .pure _
  refine .bind .get fun _ => .bind .get fun _ => ?_
  split
  · exact .pure _
  dsimp only
  split
  · exact .bind (.refreshCache q) fun _ => .pure _
  refine .bind (fun w => (push_outcome logged _ _ _ w).2.2) fun pushed => ?_
  split
  · exact .pure _
  split
  · refine .bind (.saveLocal _ _) fun saved => ?_
    split
    · exact .bind (.of_effect (compensate_effect logged _ _ _ _)) fun _ => .pure _
    · refine .bind (.commit _ _ _ _) fun result => ?_
      -- the commit, compensated when it fails
      split
      · exact .bind (.of_effect (compensate_effect logged _ _ _ _)) fun _ => .pure _
      · exact .pure _
  · refine .bind (.commit _ _ _ _) fun result => ?_
    split
    · exact .bind (.of_effect (compensate_effect logged _ _ _ _)) fun _ => .pure _
    · exact .pure _

theorem KeepsClock.process (logged : r.Logged) (collection : Collection) (abort : Bool) (p : Plan) :
    KeepsClock (process r collection abort p) := by
  unfold SyncM.process
  refine .bind .get fun _ => ?_
  split
  · exact .pure _
  refine .bind (.refresh _ _) fun rechecked => ?_
  split
  · exact .pure _
  · exact .pure _
  · refine .bind (.apply logged _ _) fun result => ?_
    split
    · dsimp only
      split
      · exact .bind (.emit _) fun _ => .bind (.of_effect (Effect.forM_emit _ _)) fun _ => .pure _
      · exact .bind (.of_effect (Effect.forM_emit _ _)) fun _ => .pure _
    · exact .bind (.emit _) fun _ => .pure _

end Clock

section Outcome

variable {collection : Collection} {q : Plan} {d : Detection} {clock : CacheClock} {now : Int}
  {s s' : Store} {log log' : List Remote.Sent} {result : Except Error Unit}

/-- However carrying out a plan ends, it keeps the link table a bijection and every link in it. -/
theorem ApplyOutcome.links (calm : s.faults.interference = none) (bij : s.LinksBijective)
    (stamp : LinkRecord.StampFits now)
    (outcome : ApplyOutcome collection q d clock now s log result s' log') :
    s'.LinksBijective ∧ s'.faults.interference = none ∧ s.LinksKept s' := by
  -- a store with the link entries of `s`
  have same : ∀ s'' : Store,
      (∀ ns key, ns = nsLinkLocal ∨ ns = nsLinkRemote → s''.get ns key = s.get ns key) →
      s''.faults.interference = none →
      s''.LinksBijective ∧ s''.faults.interference = none ∧ s.LinksKept s'' :=
    fun s'' links calm'' => ⟨bij.of_links_eq links, calm'', .of_get links⟩
  cases outcome with
  | unread _ => exact ⟨bij, calm, .refl s⟩
  | pushRefused _ _ => exact ⟨bij, calm, .refl s⟩
  | refreshed =>
    have outside : ∀ w ∈ [Cache.putOp clock q.remoteId q.remote], w.OutsideLinks := by
      simp [Write.OutsideLinks, Cache.putOp, Write.target, nsCache, nsLinkLocal, nsLinkRemote]
    exact same _ (fun ns key linkSpace => Store.writeBatch_links calm outside linkSpace key)
      (by rw [Store.writeBatch_faults calm, calm])
  | pushIgnored _ _ =>
    exact same _ (fun ns key linkSpace => q.compensated_get false s linkSpace key)
      (q.compensated_calm false calm)
  | saveRefused _ _ _ =>
    exact same _ (fun ns key linkSpace => q.compensated_get false s linkSpace key)
      (q.compensated_calm false calm)
  | commitRefused _ saved remoteAfter saves refused =>
    rw [Links.commitWith_failed (saves.calm calm) refused]
    exact same _ (fun ns key linkSpace => by rw [q.compensated_get _ _ linkSpace, saves.get])
      (q.compensated_calm _ (saves.calm calm))
  | committed saved remoteAfter saves _ _ =>
    have savedCalm := saves.calm calm
    have savedBij : saved.LinksBijective := bij.of_links_eq fun ns key _ => by rw [saves.get]
    have outside := q.commitWrites_outside d clock remoteAfter now
    exact ⟨Links.commitWith_bijective savedCalm savedBij stamp outside,
      Links.commitWith_calm savedCalm _ _ _ _,
      (Store.LinksKept.of_get fun ns key _ => by rw [saves.get]).trans
        (Links.commitWith_kept savedCalm savedBij outside)⟩

theorem ApplyOutcome.failRemoves (calm : s.faults.interference = none)
    (outcome : ApplyOutcome collection q d clock now s log result s' log') :
    s'.faults.failRemoves = s.faults.failRemoves := by
  -- the local save counts down only planted saves, and a commit keeps the faults
  have saved {saved : Store} (saves : q.Saves now s saved) :
      saved.faults.failRemoves = s.faults.failRemoves := by
    obtain ⟨n, faults⟩ := saves.faults
    rw [faults]
  cases outcome with
  | unread _ => rfl
  | pushRefused _ _ => rfl
  | refreshed => rw [Store.writeBatch_faults calm]
  | pushIgnored _ _ => exact q.compensated_failRemoves false s
  | saveRefused _ _ _ => exact q.compensated_failRemoves false s
  | commitRefused _ saved' remoteAfter saves refused =>
    rw [q.compensated_failRemoves, Links.commitWith_faults (saves.calm calm), saved saves]
  | committed saved' remoteAfter saves _ _ =>
    rw [Links.commitWith_faults (saves.calm calm), saved saves]

/-- A failed import leaves its own row as it found it, removes the item it saved there, or, where
removals fail, keeps that item. -/
theorem ApplyOutcome.importRow (imported : q.pairing.isImport = true)
    (localId : q.localId = q.pairing.entity.id) (calm : s.faults.interference = none) {e : Error}
    (outcome : ApplyOutcome collection q d clock now s log (.error e) s' log') :
    s'.rowAt q.localId = s.rowAt q.localId ∨ s'.rowAt q.localId = (none, none) ∨
      s'.faults.failRemoves = true ∧ s'.rowAt q.localId = (some (q.updated now), none) := by
  cases outcome with
  | unread _ => exact .inl rfl
  | pushRefused _ _ => exact .inl rfl
  | pushIgnored _ _ => exact .inl (Plan.invalidated_rowAt q s _)
  | saveRefused _ _ _ => exact .inl (Plan.invalidated_rowAt q s _)
  | commitRefused _ saved remoteAfter saves refused =>
    rw [Links.commitWith_failed (saves.calm calm) refused]
    obtain ⟨c, pairing⟩ : ∃ c, q.pairing = .imported c := by
      cases found : q.pairing with
      | linked e => rw [found] at imported; cases imported
      | imported c => exact ⟨c, rfl⟩
    have writes : q.writesLocal = true := by simp [Plan.writesLocal, imported]
    have savedEq : s.save (q.updated now) = .ok saved := by
      have written := saves
      rwa [Plan.Saves, if_pos writes] at written
    -- the import is saved under its id, and the compensation removes it unless removals fail
    have held : ((Cache.invalidate (some q.remoteId)).run saved).2.1.rowAt c.id =
        (some (q.updated now), none) := by
      rw [Plan.invalidated_rowAt, Store.save_rowAt savedEq, Plan.updated_id, pairing]
      exact if_pos rfl
    right
    simp only [Plan.compensated, writes, if_true]
    rw [localId, pairing, Plan.restore_imported pairing]
    dsimp only [Pairing.entity]
    split
    · next failing => exact .inr ⟨failing, held⟩
    · have listed : (((Cache.invalidate (some q.remoteId)).run saved).2.1.kindTextOf? c.id).isSome := by
        rw [Store.kindTextOf?_of_entity (congrArg Prod.fst held)]
        rfl
      exact .inl (by rw [Store.removeEntity_rowAt, if_pos ⟨rfl, listed⟩])

end Outcome

/-- A plan checked again into an import: its remote id did not read as linked. -/
theorem refresh_import_unlinked (r : Runner) (kind : Kind) (p : Plan) (w : World) {q : Plan}
    (refreshed : (StateT.run (refresh r kind p) w).1 = .ok (some q))
    (imported : q.pairing.isImport = true) :
    (Links.localFor w.store q.remoteId).toOption.join = none := by
  -- planned anew, an import is planned only for an item found unlinked
  have fromPlan : (StateT.run (plan r kind p.remote (!p.pairing.isImport)) w).1 = .ok (some q) →
      (Links.localFor w.store q.remoteId).toOption.join = none := by
    intro replanned
    have planned := plan_planned r kind p.remote (!p.pairing.isImport) w
    rw [replanned] at planned
    cases planned with
    | made _ remote wellFormed found =>
      rw [wellFormed.remoteId, remote]
      cases pairing : q.pairing with
      | linked e => rw [pairing] at imported; cases imported
      | imported c =>
        rw [pairing] at found
        rw [found.1]
        rfl
  unfold refresh at refreshed
  rw [run_bind, run_get, run_bind, localFor_run] at refreshed
  dsimp only at refreshed
  split at refreshed
  · next before pairing =>
    split at refreshed
    · have same : (Except.ok (some p) : Except EntityReport (Option Plan)) = .ok (some q) :=
        refreshed
      cases same
      rw [pairing] at imported
      cases imported
    · exact fromPlan refreshed
  · next created pairing =>
    split at refreshed
    · next kept =>
      have same : (Except.ok (some p) : Except EntityReport (Option Plan)) = .ok (some q) :=
        refreshed
      cases same
      simpa using (Bool.and_eq_true_iff.mp kept).2
    · exact fromPlan refreshed

variable {s₀ : Store} {reps : List EntityReport}

/-- Carrying out a plan, checked again, keeps `ImportsSound`. A linked item was loaded from its
own row; an import's remote id had no link when it was checked, so committing it links it. -/
theorem apply_sound {r : Runner} (logged : r.Logged) (collection : Collection) {policy : SeedPolicy}
    {q : Plan} (wellFormed : q.WellFormed policy) {w : World} (sound : ImportsSound s₀ w.store reps)
    (stamp : LinkRecord.StampFits w.wallClock) (loads : q.pairing.LoadsFrom w.store)
    (unlinked : q.pairing.isImport = true → w.store.get nsLinkRemote q.remoteId = none) :
    ImportsSound s₀ (StateT.run (apply r collection q) w).2.store
      (reps ++ [q.reportOf (StateT.run (apply r collection q) w).1]) := by
  have linkedRow : q.pairing.isImport = false → w.store.hasRow q.localId = true := by
    intro linked
    cases pairing : q.pairing with
    | imported c => rw [pairing] at linked; cases linked
    | linked e =>
      rw [pairing] at loads
      obtain ⟨id, loaded⟩ := loads
      obtain ⟨named, has⟩ := sound.keyed.load loaded
      rw [wellFormed.localId, pairing]
      show w.store.hasRow e.id = true
      rw [named]
      exact has
  cases detected : q.detection with
  | none =>
    have applied := apply_applied logged collection q w
    generalize (StateT.run (apply r collection q) w).1 = result at applied ⊢
    generalize (StateT.run (apply r collection q) w).2.store = s' at applied ⊢
    generalize (StateT.run (apply r collection q) w).2.tracker.log = log' at applied
    cases applied with
    | detected d' found _ => rw [detected] at found; cases found
    | cached _ =>
      have outside : ∀ w' ∈ [Cache.putOp { ttl := r.ttl, now := w.clock } q.remoteId q.remote],
          w'.OutsideLinks := by
        simp [Write.OutsideLinks, Cache.putOp, Write.target, nsCache, nsLinkLocal, nsLinkRemote]
      have links := fun ns key (linkSpace : ns = nsLinkLocal ∨ ns = nsLinkRemote) =>
        Store.writeBatch_links sound.calm outside linkSpace key
      refine sound.tame (sound.bijective.of_links_eq links)
        (by rw [Store.writeBatch_faults sound.calm, sound.calm]) (.of_get links)
        (fun id => by rw [Store.writeBatch_rowAt]; exact sound.keyed id)
        (by rw [Store.writeBatch_faults sound.calm])
        (fun id has => by rwa [Store.hasRow_eq, Store.writeBatch_rowAt, ← Store.hasRow_eq] at has)
        fun created => ?_
      have some := (Plan.reportOf_created created).2.2
      rw [detected] at some
      cases some
  | some d =>
    obtain ⟨outcome, committed⟩ := apply_outcome_committed logged collection detected w
    generalize (StateT.run (apply r collection q) w).1 = result at outcome committed ⊢
    generalize (StateT.run (apply r collection q) w).2.store = s' at outcome committed ⊢
    generalize (StateT.run (apply r collection q) w).2.tracker.log = log' at outcome
    obtain ⟨bijective, calm, kept⟩ := outcome.links sound.calm sound.bijective stamp
    have removes := outcome.failRemoves sound.calm
    obtain ⟨rows, own⟩ := outcome.rows wellFormed.localId sound.calm
    have keyed := sound.keyed.of_rowAt rows (own.keyed wellFormed.localId (sound.keyed _))
    cases imported : q.pairing.isImport
    · refine sound.tame bijective calm kept keyed removes
        (Store.hasRow_of_rowAt rows fun _ => linkedRow imported) fun created => ?_
      rw [(Plan.reportOf_created created).2.1] at imported
      cases imported
    cases result with
    | error e =>
      refine sound.step bijective calm keyed kept removes
        (fun created => by cases (Plan.reportOf_created created).1) fun id has => ?_
      by_cases same : id = q.localId
      · rw [same] at has ⊢
        rcases outcome.importRow imported wellFormed.localId sound.calm with
          unchanged | removed | ⟨failing, -⟩
        · left
          rwa [Store.hasRow_eq, unchanged, ← Store.hasRow_eq] at has
        · rw [Store.hasRow_eq, removed] at has
          cases has
        · -- removals fail: the import is reported failed and its item stays
          rw [removes] at failing
          exact .inr ⟨.inr ⟨rfl, failing⟩, rfl⟩
      · left
        rwa [Store.hasRow_eq, rows id same, ← Store.hasRow_eq] at has
    | ok u =>
      cases u
      rcases committed rfl with linked | ⟨saved, remoteAfter, saves, done⟩
      · rw [imported] at linked
        cases linked
      -- the import committed: its remote id is linked to its local id, its row is new
      have isCreated : (q.reportOf (.ok ())).outcome = .created := by
        simp [Plan.reportOf, Plan.report, Plan.outcome, detected, imported]
      refine sound.step bijective calm keyed kept removes
        (fun _ => ⟨unlinked imported, q.localId, rfl, ?_⟩) fun id has => ?_
      · have free : saved.get nsLinkRemote q.remoteId = none := by
          rw [saves.get]
          exact unlinked imported
        have links := Links.commitWith_links (saves.calm sound.calm) free stamp
          (q.commitWrites_outside _ _ _ _) (by rw [done])
        rw [done] at links
        exact links
      · by_cases same : id = q.localId
        · exact .inr ⟨.inl isCreated, by rw [same]; rfl⟩
        · left
          rwa [Store.hasRow_eq, rows id same, ← Store.hasRow_eq] at has

theorem process_sound {r : Runner} (logged : r.Logged) (collection : Collection) (abort : Bool)
    {p : Plan} (wellFormed : p.WellFormed r.options.seedPolicy) {w : World}
    (sound : ImportsSound s₀ w.store reps) (stamp : LinkRecord.StampFits w.wallClock) :
    ImportsSound s₀ (StateT.run (process r collection abort p) w).2.store
      (reps ++ [(StateT.run (process r collection abort p) w).1.1]) := by
  rcases process_steps r collection abort p w with
    ⟨dropped, stored, -⟩ | ⟨q, w₁, refreshed, reported, stored, -⟩
  · rw [stored]
    refine sound.tame sound.bijective sound.calm (.refl _) sound.keyed rfl (fun _ has => has)
      fun created => ?_
    rcases dropped with cancelled | failed
    · rw [cancelled] at created
      cases created
    · rw [failed] at created
      cases created
  · -- the plan carried out was checked again in a world with the same store and wall clock
    have rechecked := refresh_rechecked r collection.kind p w
    have unlinked := refresh_import_unlinked r collection.kind p w (q := q) (by rw [refreshed])
    obtain ⟨kept, -⟩ := Stays.refresh (S := Eq) (T := Eq) r collection.kind p w
    have clock := KeepsClock.refresh (r := r) collection.kind p w
    rw [refreshed] at rechecked kept clock
    obtain ⟨-, -, wellFormed', loads⟩ := rechecked.carried wellFormed
    dsimp only at kept clock
    rw [kept] at sound loads unlinked
    rw [reported, stored]
    exact apply_sound logged collection wellFormed' sound (by rw [clock]; exact stamp) loads
      fun imported => sound.bijective.free (unlinked imported)

theorem chain_sound {r : Runner} (logged : r.Logged) (collection : Collection) {now : List Processing}
    {w : World} (chained : Chained r collection w now)
    (wellFormed : ∀ x ∈ now, x.plan.WellFormed r.options.seedPolicy)
    (sound : ImportsSound s₀ w.store reps) (stamp : LinkRecord.StampFits w.wallClock) :
    ImportsSound s₀ (chainEnd r collection w now).store
        (reps ++ now.map fun x => (x.run r collection).1.1) ∧
      (chainEnd r collection w now).wallClock = w.wallClock := by
  induction now generalizing w reps with
  | nil => exact ⟨by simpa [chainEnd] using sound, rfl⟩
  | cons x rest ih =>
    obtain ⟨rfl, chained⟩ := chained
    have first := process_sound logged collection x.abort (wellFormed x (.head _)) sound stamp
    have clock := KeepsClock.process logged collection x.abort x.plan x.start
    obtain ⟨later, clock'⟩ := ih chained (fun y mem => wellFormed y (.tail _ mem)) first
      (by rw [Processing.run, clock]; exact stamp)
    refine ⟨?_, clock'.trans clock⟩
    have reported : reps ++ (x :: rest).map (fun x => (x.run r collection).1.1) =
        reps ++ [(x.run r collection).1.1] ++ rest.map (fun x => (x.run r collection).1.1) := by
      simp
    rw [reported]
    exact later

theorem processRounds_sound {r : Runner} (logged : r.Logged) (collection : Collection)
    (rounds : List (List Plan)) (fatal : Option SyncError)
    (wellFormed : ∀ round ∈ rounds, ∀ p ∈ round, p.WellFormed r.options.seedPolicy) {w : World}
    (sound : ImportsSound s₀ w.store reps) (stamp : LinkRecord.StampFits w.wallClock) :
    ImportsSound s₀ (StateT.run (processRounds r collection fatal rounds) w).2.store
      (reps ++ (StateT.run (processRounds r collection fatal rounds) w).1.1) := by
  induction rounds generalizing fatal w reps with
  | nil =>
    show ImportsSound s₀ w.store (reps ++ [])
    rw [List.append_nil]
    exact sound
  | cons round rest ih =>
    obtain ⟨now, chained, plans, -, ran⟩ := processRound_chained r collection
      (fatal.isSome || (r.startsTogether && w.cancelled)) round w
    have planned : ∀ x ∈ now, x.plan.WellFormed r.options.seedPolicy := by
      intro x mem
      exact wellFormed round (.head _) x.plan (plans ▸ List.mem_map_of_mem mem)
    obtain ⟨soundRound, clock⟩ := chain_sound logged collection chained planned sound stamp
    have later := ih (firstFatal r collection fatal now) (fun round mem => wellFormed round (.tail _ mem))
      soundRound (by rw [clock]; exact stamp)
    rw [processRounds, run_bind, run_get]
    dsimp only
    rw [run_bind, ran]
    dsimp only
    rw [firstFatal_eq_foldl, run_bind]
    generalize StateT.run (processRounds r collection (firstFatal r collection fatal now) rest)
      (chainEnd r collection w now) = out at later ⊢
    obtain ⟨⟨reports, fatal'⟩, w'⟩ := out
    rw [List.append_assoc] at later
    rw [List.map_map]
    exact later

/-! The phases around the processing of plans write nothing and keep the wall clock. -/

section Phases

variable {r : Runner} (logged : r.Logged) (alone : ∀ w, r.onApply w = w)

include alone in
theorem along_alone {S : Store → Store → Prop} {T : Remote.Tracker → Remote.Tracker → Prop}
    [IsPreorder Store S] [IsPreorder Remote.Tracker T] (w : World) :
    World.Along S T w (r.onApply w) := by
  rw [alone]
  exact World.Along.refl w

include alone in
theorem setPhase_store (p : Phase) (w : World) : (StateT.run (setPhase r p) w).2.store = w.store :=
  (Stays.setPhase (S := Eq) (T := Eq) (along_alone alone) p w).1.symm

include logged alone in
theorem listing_keeps (collection : Collection) (w : World) :
    (StateT.run (listing r collection) w).2.store = w.store ∧
      (StateT.run (listing r collection) w).2.wallClock = w.wallClock := by
  have gets : ∀ path params, Stays Eq Remote.Tracker.SentNoPatch (r.send .get path params) :=
    fun path params => Stays.send logged (by decide) path params
  refine ⟨((Stays.bind (Stays.setPhase (along_alone alone) _) fun _ =>
    Stays.bind (Stays.setPhase (along_alone alone) _) fun _ =>
      Stays.fetchAll gets _ _ _ _) w).1.symm, ?_⟩
  exact (KeepsClock.bind (.setPhase alone _) fun _ => .bind (.setPhase alone _) fun _ =>
    .fetchPages logged _ _ _ _ _ _ _) w

include alone in
theorem normalizePhase_keeps (items : List Json) (w : World) :
    (StateT.run (normalizePhase r items) w).2.store = w.store ∧
      (StateT.run (normalizePhase r items) w).2.wallClock = w.wallClock :=
  ⟨((Stays.bind (S := Eq) (T := Eq) (Stays.setPhase (along_alone alone) _) fun _ =>
      Stays.normalizeItems items) w).1.symm,
    (KeepsClock.bind (.setPhase alone _) fun _ => .normalizeItems items) w⟩

include alone in
theorem planPhase_keeps (collection : Collection) (targeted : Bool) (remotes : List Snapshot)
    (w : World) :
    (StateT.run (planPhase r collection targeted remotes) w).2.store = w.store ∧
      (StateT.run (planPhase r collection targeted remotes) w).2.wallClock = w.wallClock :=
  ⟨((Stays.bind (S := Eq) (T := Eq) (Stays.setPhase (along_alone alone) _) fun _ =>
      Stays.bind (Stays.planAll r _ targeted remotes) fun _ =>
        Stays.bind (Stays.setPhase (along_alone alone) _) fun _ => Stays.pure _) w).1.symm,
    (KeepsClock.bind (.setPhase alone _) fun _ => .bind (.planAll _ targeted remotes) fun _ =>
      .bind (.setPhase alone _) fun _ => .pure _) w⟩

include alone in
theorem execute_store (collection : Collection) (remotes : List Snapshot)
    (failed : List EntityReport) (targeted : Bool) (w : World) :
    (StateT.run (execute r collection remotes failed targeted) w).2.store =
      (StateT.run (carryOut r collection (StateT.run (planPhase r collection targeted remotes) w).1.1)
        (StateT.run (planPhase r collection targeted remotes) w).2).2.store := by
  unfold execute planPhase carryOut
  simp only [run_bind, run_pure]
  generalize StateT.run (planAll r collection.kind targeted remotes)
    (StateT.run (setPhase r .compare) w).2 = planRun
  obtain ⟨⟨plans, planFailed, skipped⟩, w₁⟩ := planRun
  by_cases dry : r.options.dryRun = true
  · simp only [if_pos dry, run_bind, run_pure, setPhase_store alone]
  simp only [if_neg dry, run_bind]
  generalize StateT.run (processRounds r collection none (chunks r.roundSize plans))
    (StateT.run (setPhase r .apply) w₁).2 = doneRun
  obtain ⟨⟨reports, fatal⟩, w₂⟩ := doneRun
  cases fatal <;> simp only [run_bind, run_pure, setPhase_store alone]

end Phases

/-! Entities that fail before they are processed are never reported created. -/

theorem createdIds_of_failed {reps : List EntityReport}
    (failed : ∀ rep ∈ reps, rep.outcome = .failed) : createdIds reps = [] := by
  simp only [createdIds, List.map_eq_nil_iff, List.filter_eq_nil_iff, decide_eq_true_eq]
  intro rep mem created
  rw [failed rep mem] at created
  cases created

theorem normalizeItem_failed (item : Json) :
    Yields (normalizeItem item) fun res => ∀ rep, res = .error rep → rep.outcome = .failed := by
  unfold normalizeItem
  dsimp only
  refine Yields.seq fun _ => ?_
  split
  · exact Yields.pure fun _ no => nomatch no
  · exact Yields.seq fun _ => Yields.pure fun _ failed => by cases failed; rfl

theorem normalizeItems_failed (items : List Json) :
    Yields (normalizeItems items) fun normalized => ∀ rep ∈ normalized.2, rep.outcome = .failed := by
  induction items with
  | nil => exact Yields.pure fun _ no => by cases no
  | cons item rest ih =>
    unfold normalizeItems
    refine Yields.bind (normalizeItem_failed item) fun head headFailed =>
      Yields.bind ih fun tail restFailed => ?_
    obtain ⟨snaps, failed⟩ := tail
    cases head with
    | ok snap => exact Yields.pure restFailed
    | error rep => exact Yields.pure (List.forall_mem_cons.mpr ⟨headFailed rep rfl, restFailed⟩)

theorem planAll_planned (r : Runner) (kind : Kind) (targeted : Bool) (remotes : List Snapshot) :
    Yields (planAll r kind targeted remotes) fun planned =>
      (∀ p ∈ planned.1, p.WellFormed r.options.seedPolicy) ∧
        ∀ rep ∈ planned.2.1, rep.outcome = .failed := by
  induction remotes with
  | nil => exact Yields.pure ⟨(fun _ no => by cases no), fun _ no => by cases no⟩
  | cons remote rest ih =>
    unfold planAll
    refine Yields.bind (P := fun res => ∃ s, Planned r.options.seedPolicy s remote targeted res)
      (fun w => ⟨w.store, plan_planned r kind remote targeted w⟩) fun head found =>
        Yields.bind ih fun tail restOk => ?_
    obtain ⟨_, planned⟩ := found
    obtain ⟨plans, failed, skipped⟩ := tail
    obtain ⟨restPlans, restFailed⟩ := restOk
    -- the snapshot becomes a well-formed plan, a failed entity or one more unlinked item
    cases planned with
    | failed rep failed' => exact Yields.pure ⟨restPlans, List.forall_mem_cons.mpr ⟨failed', restFailed⟩⟩
    | unlinked _ => exact Yields.pure ⟨restPlans, restFailed⟩
    | made q _ wellFormed _ => exact Yields.pure ⟨List.forall_mem_cons.mpr ⟨wellFormed, restPlans⟩, restFailed⟩

/-- A whole run keeps `ImportsSound` over the reports of the entities it processed, each of which
its report lists; a run that is not dry reports no other entity created. -/
theorem run_imports_sound {r : Runner} (logged : r.Logged) (alone : ∀ w, r.onApply w = w)
    (collection : Collection) (w : World) (bijective : w.store.LinksBijective)
    (calm : w.store.faults.interference = none) (keyed : w.store.ItemsKeyed)
    (stamp : LinkRecord.StampFits w.wallClock) :
    ∃ reps, ImportsSound w.store (StateT.run (SyncM.run r collection) w).2.store reps ∧
      ∀ report, (StateT.run (SyncM.run r collection) w).1 = .ok report →
        (∀ rep ∈ reps, rep ∈ report.entities) ∧
        (r.options.dryRun = false → (createdIds report.entities).Perm (createdIds reps)) := by
  have start := ImportsSound.start bijective calm keyed
  obtain ⟨listStore, listClock⟩ := listing_keeps logged alone collection w
  cases listed : (StateT.run (listing r collection) w).1 with
  | error f =>
    rw [run_refused r collection w listed, setPhase_store alone, listStore]
    exact ⟨[], start, fun report no => nomatch no⟩
  | ok items =>
    rw [run_listed r collection w listed, execute_store alone]
    -- normalizing and planning write nothing, and fail entities only as failed
    obtain ⟨normStore, normClock⟩ :=
      normalizePhase_keeps alone items (StateT.run (listing r collection) w).2
    have normFailed := (show Yields (normalizePhase r items) _ from
      Yields.seq fun _ => normalizeItems_failed items) (StateT.run (listing r collection) w).2
    generalize StateT.run (normalizePhase r items) (StateT.run (listing r collection) w).2 =
      normalized at normStore normClock normFailed ⊢
    obtain ⟨⟨remotes, failed⟩, w₂⟩ := normalized
    obtain ⟨planStore, planClock⟩ := planPhase_keeps alone collection false remotes w₂
    have planFine := (show Yields (planPhase r collection false remotes) _ from
      Yields.seq fun _ => Yields.bind (planAll_planned r collection.kind false remotes)
        fun _ fine => Yields.seq fun _ => Yields.pure fine) w₂
    obtain ⟨aborted, finished⟩ := execute_outcome r collection remotes failed false w₂
    generalize StateT.run (planPhase r collection false remotes) w₂ = planned
      at planStore planClock planFine aborted finished ⊢
    obtain ⟨⟨plans, planFailed, skipped⟩, w₃⟩ := planned
    obtain ⟨wellFormed, planFailedAll⟩ := planFine
    have startHere : ImportsSound w.store w₃.store [] := by
      rw [planStore, normStore, listStore]
      exact start
    by_cases dry : r.options.dryRun = true
    · -- a dry run carries nothing out
      have reported : StateT.run (carryOut r collection plans) w₃ =
          ((plans.map Plan.report, none), w₃) := by
        unfold carryOut
        rw [if_pos dry]
        rfl
      rw [reported]
      refine ⟨[], startHere, fun report _ => ⟨(fun _ no => nomatch no), fun notDry => ?_⟩⟩
      rw [dry] at notDry
      cases notDry
    have processed : StateT.run (carryOut r collection plans) w₃ =
        StateT.run (processRounds r collection none (chunks r.roundSize plans)) w₃ := by
      unfold carryOut
      rw [if_neg dry]
    have rounds : ∀ round ∈ chunks r.roundSize plans, ∀ p ∈ round,
        p.WellFormed r.options.seedPolicy := by
      intro round mem p inRound
      refine wellFormed p ?_
      rw [← flatten_chunks r.roundSize plans]
      exact List.mem_flatten.mpr ⟨round, mem, inRound⟩
    have sound := processRounds_sound logged collection (chunks r.roundSize plans) none rounds
      startHere (by rw [planClock, normClock, listClock]; exact stamp)
    rw [List.nil_append] at sound
    rw [processed] at aborted finished ⊢
    refine ⟨_, sound, fun report reported => ?_⟩
    cases fatal : (StateT.run (processRounds r collection none (chunks r.roundSize plans)) w₃).1.2 with
    | some e =>
      rw [(aborted e fatal).1] at reported
      cases reported
    | none =>
      obtain ⟨report', reported', entities, -, -⟩ := finished fatal
      rw [reported'] at reported
      cases reported
      -- the report lists the failed entities and the processed ones, sorted
      have sorted := List.mergeSort_perm (failed ++ planFailed ++
        (StateT.run (processRounds r collection none (chunks r.roundSize plans)) w₃).1.1)
        fun a b => decide (a.remoteId ≤ b.remoteId)
      refine ⟨fun rep mem => ?_, fun _ => ?_⟩
      · rw [entities, sortByRemoteId]
        exact sorted.mem_iff.mpr (List.mem_append_right _ mem)
      · rw [entities, sortByRemoteId]
        refine (createdIds_perm sorted).trans ?_
        rw [createdIds_append, createdIds_append, createdIds_of_failed normFailed,
          createdIds_of_failed planFailedAll, List.nil_append, List.nil_append]

end SyncM

/-- Imports never duplicate or orphan a local item: the link table stays a bijection, each new item
is linked (or reported failed where removals fail), and a run that writes creates each id once. -/
theorem imports_link_each_item_once {r : Runner} (logged : r.Logged)
    (alone : ∀ w, r.onApply w = w) (collection : Collection) (w : World)
    (bijective : w.store.LinksBijective) (calm : w.store.faults.interference = none)
    (keyed : w.store.ItemsKeyed) (stamp : LinkRecord.StampFits w.wallClock) :
    (StateT.run (SyncM.run r collection) w).2.store.LinksBijective ∧
      (∀ id, (StateT.run (SyncM.run r collection) w).2.store.hasRow id = true →
        w.store.hasRow id = false →
        (∃ remoteId, Links.remoteFor (StateT.run (SyncM.run r collection) w).2.store id =
            .ok (some remoteId) ∧
          Links.localFor (StateT.run (SyncM.run r collection) w).2.store remoteId = .ok (some id) ∧
          ∀ report, (StateT.run (SyncM.run r collection) w).1 = .ok report →
            ∃ rep ∈ report.entities, rep.outcome = .created ∧ rep.localId = some id ∧
              rep.remoteId = remoteId) ∨
        w.store.faults.failRemoves = true ∧
          ∀ report, (StateT.run (SyncM.run r collection) w).1 = .ok report →
            ∃ rep ∈ report.entities, rep.outcome = .failed ∧ rep.localId = some id) ∧
      (r.options.dryRun = false → ∀ report, (StateT.run (SyncM.run r collection) w).1 = .ok report →
        (createdIds report.entities).Nodup) := by
  obtain ⟨reps, sound, reported⟩ :=
    SyncM.run_imports_sound logged alone collection w bijective calm keyed stamp
  refine ⟨sound.bijective, fun id has new => ?_, fun notDry report ok =>
    ((reported report ok).2 notDry).nodup_iff.mpr sound.once⟩
  obtain ⟨rep, mem, outcome, named⟩ := sound.fresh id has new
  rcases outcome with created | ⟨failed, failing⟩
  · -- a row of an entity reported created: its remote id links to it
    obtain ⟨l, named', linked⟩ := sound.created rep mem created
    rw [named, Option.some.injEq] at named'
    subst named'
    exact .inl ⟨rep.remoteId, sound.bijective.remoteFor linked, linked,
      fun report ok => ⟨rep, (reported report ok).1 rep mem, created, named, rfl⟩⟩
  · exact .inr ⟨failing, fun report ok => ⟨rep, (reported report ok).1 rep mem, failed, named⟩⟩

def unlinkedTwiceWorld : World :=
  { store := {}
    tracker := { collections := Table.empty.insert "issues" (List.replicate 2 titledItem) }
    clock := 0, wallClock := 0 }

def importingRunner (dry : Bool) : Runner :=
  { send := World.sendScripted, options := { dryRun := dry, importUnlinked := true } }

theorem unlinkedTwiceWorld_linksBijective : unlinkedTwiceWorld.store.LinksBijective :=
  ⟨fun _ _ held => (by cases held), fun _ _ held => (by cases held)⟩

theorem unlinkedTwiceWorld_stampFits : LinkRecord.StampFits unlinkedTwiceWorld.wallClock := by
  show LinkRecord.StampFits 0
  unfold LinkRecord.StampFits
  omega

theorem imports_link_each_item_once_on_twice_listed_item :
    (importingRunner false).Logged ∧ (∀ w, (importingRunner false).onApply w = w) ∧
      unlinkedTwiceWorld.store.LinksBijective ∧
      unlinkedTwiceWorld.store.faults.interference = none ∧
      unlinkedTwiceWorld.store.ItemsKeyed ∧ LinkRecord.StampFits unlinkedTwiceWorld.wallClock ∧
      ∀ report, (StateT.run (SyncM.run (importingRunner false) (.ofKind .issue))
          unlinkedTwiceWorld).1 = .ok report →
        (createdIds report.entities).Nodup := by
  have logged := Runner.logged_of_scripted (r := importingRunner false) rfl
  have keyed : unlinkedTwiceWorld.store.ItemsKeyed := fun id => Store.rowKeyed_none id
  exact ⟨logged, fun _ => rfl, unlinkedTwiceWorld_linksBijective, rfl, keyed,
    unlinkedTwiceWorld_stampFits, (imports_link_each_item_once logged (fun _ => rfl) _ _
      unlinkedTwiceWorld_linksBijective rfl keyed unlinkedTwiceWorld_stampFits).2.2 rfl⟩

/-- A dry run reports each import plan as it stands, so item `7`, listed twice and unlinked, is
reported created for both of its listings. -/
theorem dry_run_reports_twice_listed_item_planned :
    ∃ report, (StateT.run (SyncM.run (importingRunner true) (.ofKind .issue))
        unlinkedTwiceWorld).1 = .ok report ∧ (createdIds report.entities).Perm ["7", "7"] := by
  have listed : (StateT.run (SyncM.listing (importingRunner true) (.ofKind .issue))
      unlinkedTwiceWorld).1 = .ok (List.replicate 2 titledItem) := rfl
  rw [SyncM.run_listed _ _ _ listed]
  obtain ⟨-, finished⟩ := SyncM.execute_outcome (importingRunner true) (.ofKind .issue) _ _ false _
  obtain ⟨report, reported, entities, -⟩ := finished rfl
  refine ⟨report, reported, ?_⟩
  -- sorting keeps the entities, so the created remote ids are those of the plans as planned
  rw [entities, sortByRemoteId]
  exact (createdIds_perm (List.mergeSort_perm _ _)).trans (.of_eq (by decide +kernel))

theorem dry_import_reports_twice_listed_item_created_twice :
    ∃ report, (StateT.run (SyncM.run (importingRunner true) (.ofKind .issue))
        unlinkedTwiceWorld).1 = .ok report ∧ ¬ (createdIds report.entities).Nodup := by
  obtain ⟨report, reported, planned⟩ := dry_run_reports_twice_listed_item_planned
  exact ⟨report, reported, by rw [planned.nodup_iff]; decide⟩

end TrackerSync
