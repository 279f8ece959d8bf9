import TrackerSync.Proofs.Sync.Twins

/-!
A fresh cache entry against a read of the item: when the item normalizes to the snapshot
cached, a targeted run gives the same result either way.
-/

namespace TrackerSync

def Event.Quiet : Event → Prop
  | .entityCommitted .. => False
  | _ => True

theorem World.emit_quiet {e : Event} (quiet : e.Quiet) (w : World) :
    w.emit e = { w with events := w.events ++ [e] } := by
  cases e
  case entityCommitted => exact absurd quiet id
  all_goals rfl

section Normalizing

theorem statusWithEvents_quiet (raw : String) : ∀ e ∈ (statusWithEvents raw).2, e.Quiet := by
  unfold statusWithEvents
  split <;> simp [Event.Quiet]

theorem extractTimestamp_quiet (raw : RawTime) (field : String) :
    ∀ e ∈ (extractTimestamp raw field).2, e.Quiet := by
  unfold extractTimestamp
  cases raw with
  | text s =>
    dsimp only
    split <;> simp [Event.Quiet]
  | _ => simp [Event.Quiet]

theorem projectPayload_quiet (m : List (String × Json)) : ∀ e ∈ (projectPayload m).2, e.Quiet := by
  unfold projectPayload
  split
  · simp
  · intro e mem
    split at mem
    next status statusEvents statusIs =>
    extract_lets timeField at mem
    split at mem
    next time timeEvents timeIs =>
    rcases List.mem_append.mp mem with fromStatus | fromTime
    · -- the status is read from `status`, else from `state`
      split at statusIs
      · cases statusIs
        exact statusWithEvents_quiet _ e fromStatus
      · split at statusIs
        · cases statusIs
          exact statusWithEvents_quiet _ e fromStatus
        · cases statusIs
          cases fromStatus
    · have timeEventsAre := congrArg Prod.snd timeIs
      dsimp only at timeEventsAre
      rw [← timeEventsAre] at fromTime
      exact extractTimestamp_quiet _ _ e fromTime

theorem normalizeMapping_quiet (m : List (String × Json)) :
    ∀ e ∈ (normalizeMapping m).2, e.Quiet := by
  unfold normalizeMapping
  split
  · simp
  · split
    · simp
    · split
      · simp
      · intro e mem
        split at mem
        next time events stamped =>
        have eventsAre := congrArg Prod.snd stamped
        dsimp only at eventsAre
        rw [← eventsAre] at mem
        exact extractTimestamp_quiet _ _ e mem

theorem RawRecord.normalize_quiet (raw : RawRecord) : ∀ e ∈ raw.normalize.2, e.Quiet := by
  unfold RawRecord.normalize
  intro e mem
  split at mem
  next result events read =>
  have quiet : ∀ e ∈ events, e.Quiet := by
    have eventsAre := congrArg Prod.snd read
    dsimp only at eventsAre
    rw [← eventsAre]
    split
    · exact normalizeMapping_quiet _
    · simp
    · exact projectPayload_quiet _
    · simp
  split at mem
  · rcases List.mem_append.mp mem with early | failed
    · exact quiet e early
    · rw [List.mem_singleton.mp failed]
      exact True.intro
  · exact quiet e mem

end Normalizing

namespace Store

def CachesFresh (s : Store) (c : CacheClock) (rid : String) (snap : Snapshot) : Prop :=
  ∃ raw e, s.get nsCache rid = some raw ∧ CacheEntry.decode rid raw = .ok e ∧
    Cache.isFreshEntry c e = true ∧ e.snapshot = snap

/-- No fresh entry of `rid` is cached, and the entry there is can be dropped. -/
def CachesExpired (s : Store) (c : CacheClock) (rid : String) : Prop :=
  ∀ raw, s.get nsCache rid = some raw → s.faults.failDeletes = false ∧
    ∀ e, CacheEntry.decode rid raw = .ok e → Cache.isFreshEntry c e = false

namespace Agree

variable {ids : List String} {s₁ s₂ : Store}

theorem mono (h : Agree ids s₁ s₂) {ids' : List String} (sub : ∀ key ∈ ids, key ∈ ids') :
    Agree ids' s₁ s₂ :=
  ⟨fun ns key outside => h.get ns key fun cache mem => outside cache (sub key mem), h.rest⟩

theorem remove_entry {key : String} (mem : key ∈ ids) (s : Store) :
    Agree ids (s.remove nsCache key).2 s := by
  refine ⟨fun ns key' outside => ?_, rfl⟩
  rw [get_remove]
  split
  · next same =>
    obtain ⟨cache, rfl⟩ := same
    exact absurd mem (outside cache.symm)
  · rfl

theorem put_entry {key : String} (mem : key ∈ ids) (s : Store) (value : String) :
    Agree ids (s.put nsCache key value) s := by
  refine ⟨fun ns key' outside => ?_, rfl⟩
  rw [get_put]
  split
  · next same =>
    obtain ⟨cache, rfl⟩ := same
    exact absurd mem (outside cache.symm)
  · rfl

end Agree

theorem CachesExpired.of_agree {s s' : Store} {c : CacheClock} {rid rid' : String}
    (expired : s.CachesExpired c rid') (agree : s'.Agree [rid] s)
    (gone : s'.get nsCache rid = none) : s'.CachesExpired c rid' := by
  intro raw held
  by_cases same : rid' = rid
  · subst same
    rw [gone] at held
    cases held
  · have kept : s'.get nsCache rid' = s.get nsCache rid' :=
      agree.get nsCache rid' fun _ mem => same (List.mem_singleton.mp mem)
    rw [agree.faults]
    exact expired raw (kept ▸ held)

end Store

namespace Cache

variable {s : Store} {c : CacheClock} {rid : String}

theorem get_run (c : CacheClock) (rid : String) (s : Store) :
    (get c rid).run s = (ExceptT.run (do
      let entry ← (match s.get nsCache rid with
        | none => (pure none : StoreAct (Option CacheEntry))
        | some raw =>
          match CacheEntry.decode rid raw with
          | .ok e => pure (some e)
          | .error _ => do evict rid; return none)
      match entry with
      | none => return none
      | some e => if isFreshEntry c e then return some e.snapshot else do evict rid; return none)).run
        (s, []) := rfl

theorem evict_run (dropping : s.faults.failDeletes = false) :
    (ExceptT.run (evict rid)).run (s, []) =
      (.ok (), (s.remove nsCache rid).2, if (s.remove nsCache rid).1 then [.cacheEvicted rid] else []) := by
  have deleted : s.delete nsCache rid = .ok ((s.remove nsCache rid).1, (s.remove nsCache rid).2) := by
    rw [Store.delete, if_neg (Bool.eq_false_iff.mp dropping)]
  unfold evict
  rw [ExceptT.run_bind, StateT.run_bind, StoreAct.delete_run_of_ok [] deleted]
  cases (s.remove nsCache rid).1 <;> rfl

theorem get_of_fresh {snap : Snapshot} (fresh : s.CachesFresh c rid snap) :
    (get c rid).run s = (.ok (some snap), s, []) := by
  obtain ⟨raw, e, held, decoded, isFresh, rfl⟩ := fresh
  rw [get_run, held]
  dsimp only
  rw [decoded]
  dsimp only
  rw [pure_bind]
  dsimp only
  rw [if_pos isFresh]
  rfl

/-- An expired or unreadable entry is dropped; a missing one leaves the store as it was. -/
theorem get_run_of_expired (expired : s.CachesExpired c rid) :
    s.get nsCache rid = none ∧ (get c rid).run s = (.ok none, s, []) ∨
      (get c rid).run s = (.ok none, (s.remove nsCache rid).2,
        if (s.remove nsCache rid).1 then [.cacheEvicted rid] else []) := by
  cases held : s.get nsCache rid with
  | none =>
    left
    rw [get_run, held]
    exact ⟨rfl, rfl⟩
  | some raw =>
    right
    obtain ⟨dropping, stale⟩ := expired raw held
    rw [get_run, held]
    dsimp only
    cases decoded : CacheEntry.decode rid raw with
    | error _ =>
      dsimp only
      rw [bind_assoc, ExceptT.run_bind, StateT.run_bind, evict_run dropping]
      rfl
    | ok e =>
      dsimp only
      rw [pure_bind]
      dsimp only
      rw [if_neg (by rw [stale e decoded]; decide), ExceptT.run_bind, StateT.run_bind,
        evict_run dropping]
      rfl

theorem get_of_expired (expired : s.CachesExpired c rid) :
    ((get c rid).run s).1 = .ok none ∧ ((get c rid).run s).2.1.Agree [rid] s ∧
      ((get c rid).run s).2.1.get nsCache rid = none ∧ ∀ e ∈ ((get c rid).run s).2.2, e.Quiet := by
  rcases get_run_of_expired expired with ⟨missing, kept⟩ | dropped
  · rw [kept]
    exact ⟨rfl, Store.Agree.refl s, missing, fun e mem => by cases mem⟩
  · rw [dropped]
    refine ⟨rfl, Store.Agree.remove_entry (List.mem_singleton_self rid) s, ?_, ?_⟩
    · rw [Store.get_remove, if_pos ⟨rfl, rfl⟩]
    · dsimp only
      split <;> simp [Event.Quiet]

end Cache

namespace Store.Agree

theorem targetsOf {ids : List String} {s₁ s₂ : Store} (h : Agree ids s₁ s₂) (localIds : List String) :
    SyncM.targetsOf s₁ localIds = SyncM.targetsOf s₂ localIds := by
  unfold SyncM.targetsOf
  simp only [h.remoteFor]

end Store.Agree

namespace Remote.Tracker

/-- A read by id of `rid` at `endpoint` is answered, leaving the tracker as it was, with an item
that normalizes to `snap`. -/
def Serves (t : Tracker) (endpoint rid : String) (snap : Snapshot) : Prop :=
  ∃ resp item evs, t.respond .get (trimTrailingSlashes endpoint ++ "/" ++ rid) [] = (t, .ok resp) ∧
    (pageItems resp.body).head? = some item ∧ (RawRecord.payload item).normalize = (.present snap, evs)

theorem Serves.of_log {t t' : Tracker} {endpoint rid : String} {snap : Snapshot}
    (served : t.Serves endpoint rid snap) (same : { t with log := [] } = { t' with log := [] }) :
    t'.Serves endpoint rid snap := by
  obtain ⟨resp, item, evs, answered, first, normalized⟩ := served
  refine ⟨resp, item, evs, ?_, first, normalized⟩
  have relogged : t' = { t with log := t'.log } :=
    calc t' = { { t' with log := [] } with log := t'.log } := rfl
      _ = { { t with log := [] } with log := t'.log } := by rw [same]
  rw [relogged, respond_withLog, answered]

end Remote.Tracker

/-- Of a target `rid`: `w` caches a fresh snapshot of it, while `w'` holds no fresh entry of it
and its tracker serves an item that normalizes to that snapshot. -/
def World.ReadsAlike (c : CacheClock) (endpoint : String) (w w' : World) (rid : String) : Prop :=
  ∃ snap, w.store.CachesFresh c rid snap ∧ w'.store.CachesExpired c rid ∧
    w'.tracker.Serves endpoint rid snap

namespace World.Twin

variable {ids : List String} {w₁ w₂ w₃ : World}

theorem trans (h : Twin ids w₁ w₂) (h' : Twin ids w₂ w₃) : Twin ids w₁ w₃ :=
  ⟨h.store.trans h'.store, h.tracker.trans h'.tracker, h.requests.trans h'.requests,
    h.frame.trans h'.frame⟩

theorem mono (h : Twin ids w₁ w₂) {ids' : List String} (sub : ∀ key ∈ ids, key ∈ ids') :
    Twin ids' w₁ w₂ :=
  ⟨h.store.mono sub, h.tracker, h.requests, h.frame⟩

end World.Twin

theorem World.ReadsAlike.of_read {c : CacheClock} {endpoint rid rid' : String} {w w' w'' : World}
    (alike : World.ReadsAlike c endpoint w w' rid') (read : World.Twin [rid] w' w'')
    (gone : w''.store.get nsCache rid = none) : World.ReadsAlike c endpoint w w'' rid' := by
  obtain ⟨snap, fresh, expired, served⟩ := alike
  exact ⟨snap, fresh, expired.of_agree read.store.symm gone, served.of_log read.tracker⟩

namespace SyncM

theorem setPhase_run {r : Runner} {p : Phase} (notApply : p ≠ .apply) (w : World) :
    StateT.run (setPhase r p) w = ((), { w with phase := p, events := w.events ++ [.phaseChanged p] }) := by
  cases p
  case apply => exact absurd rfl notApply
  all_goals rfl

theorem emitAll_quiet {es : List Event} (quiet : ∀ e ∈ es, e.Quiet) (w : World) :
    StateT.run (emitAll es) w = ((), { w with events := w.events ++ es }) := by
  induction es generalizing w with
  | nil => rw [List.append_nil]; rfl
  | cons e rest ih =>
    show StateT.run (emitAll rest) (w.emit e) = _
    rw [World.emit_quiet (quiet e List.mem_cons_self),
      ih (fun e' mem => quiet e' (List.mem_cons_of_mem e mem))]
    simp only [List.append_assoc, List.singleton_append]

/-- A read by id that the scripted tracker answers is logged there, and nothing else changes. -/
theorem fetchOne_answered {r : Runner} (scripted : r.send = World.sendScripted)
    {endpoint rid : String} {resp : Remote.Response} (w : World)
    (answered : w.tracker.respond .get (Remote.trimTrailingSlashes endpoint ++ "/" ++ rid) [] =
      (w.tracker, .ok resp)) :
    StateT.run (Remote.fetchOne r.send endpoint rid) w =
      (.ok (Remote.pageItems resp.body).head?, { w with tracker := { w.tracker with
        log := w.tracker.log ++ [⟨.get, Remote.trimTrailingSlashes endpoint ++ "/" ++ rid, []⟩] } }) := by
  rw [scripted]
  unfold Remote.fetchOne
  rw [run_bind]
  have sent : StateT.run (World.sendScripted .get (Remote.trimTrailingSlashes endpoint ++ "/" ++ rid) []) w =
      (.ok resp, { w with tracker := { w.tracker with
        log := w.tracker.log ++ [⟨.get, Remote.trimTrailingSlashes endpoint ++ "/" ++ rid, []⟩] } }) := by
    show ((w.tracker.request .get _ []).2, { w with tracker := (w.tracker.request .get _ []).1 }) = _
    unfold Remote.Tracker.request
    rw [Remote.Tracker.respond_withLog, answered]
  rw [sent]
  rfl

theorem normalizeItem_present {item : Json} {snap : Snapshot} {evs : List Event}
    (normalized : (RawRecord.payload item).normalize = (.present snap, evs)) (w : World) :
    StateT.run (normalizeItem item) w = (.ok snap, { w with events := w.events ++ evs }) := by
  have quiet : ∀ e ∈ evs, e.Quiet := by
    have all := RawRecord.normalize_quiet (.payload item)
    rw [normalized] at all
    exact all
  unfold normalizeItem
  simp only [normalized]
  rw [run_bind, emitAll_quiet quiet]
  rfl

section Gathering

variable {r : Runner} (collection : Collection)

/-- A fresh entry stands in for the item: the world is left as it was. -/
theorem gather_cons_of_fresh {w : World} {rid : String} {snap : Snapshot}
    (fresh : w.store.CachesFresh ⟨r.ttl, w.clock⟩ rid snap) (rest : List String)
    (snaps : List Snapshot) (failed : List EntityReport) :
    StateT.run (gather r collection (rid :: rest) snaps failed) w =
      StateT.run (gather r collection rest (snaps ++ [snap]) failed) w := by
  rw [gather, cacheClock_bind, store_bind, Cache.get_of_fresh fresh]
  rfl

/-- An expired entry is dropped and the item read by id: the world after differs from the one
before in that entry, a logged read and events alone. -/
theorem gather_cons_of_expired (scripted : r.send = World.sendScripted) {w : World} {rid : String}
    {snap : Snapshot} (expired : w.store.CachesExpired ⟨r.ttl, w.clock⟩ rid)
    (served : w.tracker.Serves collection.endpoint rid snap) (rest : List String)
    (snaps : List Snapshot) (failed : List EntityReport) :
    ∃ w', StateT.run (gather r collection (rid :: rest) snaps failed) w =
        StateT.run (gather r collection rest (snaps ++ [snap]) failed) w' ∧
      World.Twin [rid] w w' ∧ w'.store.get nsCache rid = none := by
  obtain ⟨resp, item, evs, answered, first, normalized⟩ := served
  obtain ⟨missed, agree, gone, quiet⟩ := Cache.get_of_expired expired
  refine ⟨{ w with
      store := ((Cache.get ⟨r.ttl, w.clock⟩ rid).run w.store).2.1
      tracker := { w.tracker with log := w.tracker.log ++
        [⟨.get, Remote.trimTrailingSlashes collection.endpoint ++ "/" ++ rid, []⟩] }
      events := w.events ++ ((Cache.get ⟨r.ttl, w.clock⟩ rid).run w.store).2.2 ++ evs }, ?_, ?_, gone⟩
  · rw [gather, cacheClock_bind, store_bind]
    generalize (Cache.get ⟨r.ttl, w.clock⟩ rid).run w.store = outcome at missed quiet ⊢
    obtain ⟨result, s', es⟩ := outcome
    dsimp only at missed quiet ⊢
    rw [missed, emitAll_quiet quiet]
    dsimp only
    rw [run_bind, fetchOne_answered scripted { w with store := s', events := w.events ++ es } answered]
    dsimp only
    rw [first]
    dsimp only
    rw [run_bind, normalizeItem_present normalized]
  · refine ⟨agree.symm, rfl, ?_, rfl⟩
    -- a read is not among the requests twins share
    have unread : (Remote.Method.get != Remote.Method.get) = false := rfl
    simp only [List.filter_append, List.filter_cons, List.filter_nil, unread, Bool.false_eq_true,
      if_false, List.append_nil]

/-- Gathering from a world whose entries are fresh and from a twin that reads the targets by id
alike gives the same snapshots and twin worlds. -/
theorem gather_reads_alike (scripted : r.send = World.sendScripted) {ids : List String} (w : World)
    (targets : List String) :
    ∀ (snaps : List Snapshot) (failed : List EntityReport) (w' : World),
      (∀ rid ∈ targets, rid ∈ ids) → World.Twin ids w w' →
      (∀ rid ∈ targets, World.ReadsAlike ⟨r.ttl, w.clock⟩ collection.endpoint w w' rid) →
      (StateT.run (gather r collection targets snaps failed) w).1 =
          (StateT.run (gather r collection targets snaps failed) w').1 ∧
        World.Twin ids (StateT.run (gather r collection targets snaps failed) w).2
          (StateT.run (gather r collection targets snaps failed) w').2 := by
  induction targets with
  | nil =>
    intro snaps failed w' _ twin _
    exact ⟨rfl, twin⟩
  | cons rid rest ih =>
    intro snaps failed w' inIds twin alike
    obtain ⟨snap, fresh, expired, served⟩ := alike rid List.mem_cons_self
    rw [twin.clock] at expired
    obtain ⟨w'', fetched, read, gone⟩ :=
      gather_cons_of_expired collection scripted expired served rest snaps failed
    rw [gather_cons_of_fresh collection fresh, fetched]
    -- the read changed the second world only in the entry of `rid`, which is never read again
    have twin' : World.Twin ids w w'' :=
      twin.trans (read.mono fun key mem => List.mem_singleton.mp mem ▸ inIds rid List.mem_cons_self)
    refine ih (snaps ++ [snap]) failed w'' (fun rid' mem => inIds rid' (List.mem_cons_of_mem rid mem))
      twin' fun rid' mem => ?_
    exact World.ReadsAlike.of_read (alike rid' (List.mem_cons_of_mem rid mem)) read gone

end Gathering

end SyncM

/-- A targeted run from a world whose cache holds fresh snapshots of the targets, and from a twin
whose entries have expired and whose tracker serves items that normalize to those snapshots,
gives the same result, and the two end as twins. -/
theorem cache_hit_agrees_with_fetch {r : Runner} (scripted : r.send = World.sendScripted)
    {ids : List String}
    (other : ∀ w₁ w₂, World.Twin ids w₁ w₂ → World.Twin ids (r.onApply w₁) (r.onApply w₂))
    (collection : Collection) (localIds : List String) {w w' : World}
    (targets : SyncM.targetsOf w.store localIds = .ok ids) (twin : World.Twin ids w w')
    (alike : ∀ rid ∈ ids, World.ReadsAlike ⟨r.ttl, w.clock⟩ collection.endpoint w w' rid) :
    (StateT.run (SyncM.syncEntities r collection localIds) w).1 =
        (StateT.run (SyncM.syncEntities r collection localIds) w').1 ∧
      World.Twin ids (StateT.run (SyncM.syncEntities r collection localIds) w).2
        (StateT.run (SyncM.syncEntities r collection localIds) w').2 := by
  have entered := SyncM.Coherent.setPhase other .init w w' twin
  have init := SyncM.setPhase_run (r := r) (p := .init) (by decide)
  rw [init, init] at entered
  dsimp only at entered
  unfold SyncM.syncEntities
  rw [SyncM.run_bind _ _ w, SyncM.run_bind _ _ w', init, init, SyncM.run_bind _ _ _, SyncM.run_get,
    SyncM.run_bind _ _ _, SyncM.run_get]
  dsimp only
  -- both runs find the same targets, since the link tables agree
  rw [← twin.store.targetsOf, targets]
  dsimp only
  have fetching := SyncM.Coherent.setPhase other .fetchRemote _ _ entered.2
  have fetch := SyncM.setPhase_run (r := r) (p := .fetchRemote) (by decide)
  rw [fetch, fetch] at fetching
  dsimp only at fetching
  rw [SyncM.run_bind (SyncM.setPhase r .fetchRemote), SyncM.run_bind (SyncM.setPhase r .fetchRemote),
    fetch, fetch, SyncM.run_bind (SyncM.gather r collection ids [] []),
    SyncM.run_bind (SyncM.gather r collection ids [] [])]
  dsimp only
  obtain ⟨same, gathered⟩ := SyncM.gather_reads_alike collection scripted _ ids [] [] _
    (fun _ mem => mem) fetching.2 alike
  rw [same]
  split
  · exact ⟨rfl, gathered⟩
  · exact SyncM.Coherent.bind (SyncM.Coherent.setPhase other _)
      (fun _ => SyncM.execute_coherent scripted other collection _ _ true) _ _ gathered

def titledCopy (title : String) : Json :=
  .obj [("id", .str "7"), ("title", .str title), ("status", .str "todo")]

/-- The cache entry of remote item `7`, titled `A` with status `todo`, written at `fetchedAt`. -/
def issueEntry (fetchedAt : Int) : CacheEntry :=
  { remoteId := "7", snapshot := { id := "7", title := some "A", status := some "todo" }, fetchedAt }

/-- Issue `L1` linked to remote item `7`, both titled `A` with status `todo`; the clocks read
1000. -/
def linkedIssueWorld : World :=
  { store := (Links.link (({} : Store).saveEntity
      { id := "L1", kind := .issue, title := "A", status := "todo", updatedAt := 1 }) "L1" "7" 0).1
    tracker := { collections := Table.empty.insert "issues" [titledCopy "A"] }
    clock := 1000, wallClock := 1000 }

def cachedIssueWorld (fetchedAt : Int) : World :=
  { linkedIssueWorld with
    store := linkedIssueWorld.store.put nsCache "7" (Json.compact (issueEntry fetchedAt).toJson) }

theorem cache_hit_agrees_with_fetch_on_linked_issue :
    scriptedRunner.send = World.sendScripted ∧
      (∀ w₁ w₂, World.Twin ["7"] w₁ w₂ → World.Twin ["7"] (scriptedRunner.onApply w₁)
        (scriptedRunner.onApply w₂)) ∧
      SyncM.targetsOf (cachedIssueWorld 0).store ["L1"] = .ok ["7"] ∧
      World.Twin ["7"] (cachedIssueWorld 0) (cachedIssueWorld (-400000)) ∧
      (∀ rid ∈ ["7"], World.ReadsAlike ⟨300000, 1000⟩ "issues" (cachedIssueWorld 0)
        (cachedIssueWorld (-400000)) rid) ∧
      (StateT.run (SyncM.syncEntities scriptedRunner (.ofKind .issue) ["L1"]) (cachedIssueWorld 0)).1 =
          (StateT.run (SyncM.syncEntities scriptedRunner (.ofKind .issue) ["L1"])
            (cachedIssueWorld (-400000))).1 ∧
        World.Twin ["7"]
          (StateT.run (SyncM.syncEntities scriptedRunner (.ofKind .issue) ["L1"]) (cachedIssueWorld 0)).2
          (StateT.run (SyncM.syncEntities scriptedRunner (.ofKind .issue) ["L1"])
            (cachedIssueWorld (-400000))).2 := by
  have other : ∀ w₁ w₂, World.Twin ["7"] w₁ w₂ → World.Twin ["7"] (scriptedRunner.onApply w₁)
      (scriptedRunner.onApply w₂) := fun _ _ twin => twin
  have targets : SyncM.targetsOf (cachedIssueWorld 0).store ["L1"] = .ok ["7"] := by decide +kernel
  have entry (fetchedAt : Int) : (cachedIssueWorld fetchedAt).store.get nsCache "7" =
      some (Json.compact (issueEntry fetchedAt).toJson) :=
    (Store.get_put _ _ _ _ _ _).trans (if_pos ⟨rfl, rfl⟩)
  -- the two worlds differ in the entry of `7` alone
  have twin : World.Twin ["7"] (cachedIssueWorld 0) (cachedIssueWorld (-400000)) :=
    (World.Twin.refl linkedIssueWorld).withStore ((Store.Agree.put_entry List.mem_cons_self _ _).trans
      (Store.Agree.put_entry List.mem_cons_self _ _).symm)
  -- the stored entries and the served item are read by the kernel
  have fresh : (cachedIssueWorld 0).store.CachesFresh ⟨300000, 1000⟩ "7" (issueEntry 0).snapshot := by
    have read : (match CacheEntry.decode "7" (Json.compact (issueEntry 0).toJson) with
        | .ok e => Cache.isFreshEntry ⟨300000, 1000⟩ e && decide (e.snapshot = (issueEntry 0).snapshot)
        | .error _ => false) = true := by decide +kernel
    split at read
    · next e decoded =>
      obtain ⟨isFresh, same⟩ := Bool.and_eq_true_iff.mp read
      exact ⟨_, e, entry 0, decoded, isFresh, of_decide_eq_true same⟩
    · cases read
  have expired : (cachedIssueWorld (-400000)).store.CachesExpired ⟨300000, 1000⟩ "7" := by
    have read : (match CacheEntry.decode "7" (Json.compact (issueEntry (-400000)).toJson) with
        | .ok e => !Cache.isFreshEntry ⟨300000, 1000⟩ e
        | .error _ => true) = true := by decide +kernel
    intro raw held
    rw [entry (-400000)] at held
    cases held
    refine ⟨rfl, fun e decoded => ?_⟩
    rw [decoded] at read
    simpa using read
  have served : (cachedIssueWorld (-400000)).tracker.Serves "issues" "7" (issueEntry 0).snapshot := by
    have read : (match (RawRecord.payload (titledCopy "A")).normalize with
        | (.present s, _) => decide (s = (issueEntry 0).snapshot)
        | (.absent _, _) => false) = true := by decide +kernel
    split at read
    · next s evs normalized =>
      rw [of_decide_eq_true read] at normalized
      exact ⟨⟨titledCopy "A", false⟩, titledCopy "A", evs, rfl, rfl, normalized⟩
    · cases read
  have alike : ∀ rid ∈ ["7"], World.ReadsAlike ⟨300000, 1000⟩ "issues" (cachedIssueWorld 0)
      (cachedIssueWorld (-400000)) rid := by
    intro rid mem
    rw [List.mem_singleton.mp mem]
    exact ⟨_, fresh, expired, served⟩
  exact ⟨rfl, other, targets, twin, alike,
    cache_hit_agrees_with_fetch rfl other (.ofKind .issue) ["L1"] targets twin alike⟩

end TrackerSync
