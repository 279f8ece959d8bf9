import TrackerSync.Sync.Run
import TrackerSync.Proofs.Sync.Apply
import Mathlib.Order.Defs.Unbundled

/-!
What a sync action may change, closed under `bind` for preorders on the store and the tracker.
-/

namespace TrackerSync

/-- Two worlds whose stores are related by `S` and whose trackers are related by `T`. -/
def World.Along (S : Store → Store → Prop) (T : Remote.Tracker → Remote.Tracker → Prop)
    (w w' : World) : Prop :=
  S w.store w'.store ∧ T w.tracker w'.tracker

namespace Remote.Tracker

def SentNoPatch (t t' : Tracker) : Prop :=
  ∃ sent : List Sent, t'.log = t.log ++ sent ∧ ∀ s ∈ sent, s.method ≠ .patch

instance : IsPreorder Tracker SentNoPatch where
  refl t := ⟨[], by simp, by simp⟩
  trans _ _ _ := by
    rintro ⟨sent, log, quiet⟩ ⟨sent', log', quiet'⟩
    refine ⟨sent ++ sent', by rw [log', log, List.append_assoc], fun s mem => ?_⟩
    rcases List.mem_append.mp mem with early | late
    · exact quiet s early
    · exact quiet' s late

end Remote.Tracker

instance : IsPreorder Store Eq where
  refl _ := rfl
  trans _ _ _ := Eq.trans

/-- A sender that hands each request to the world's tracker, which logs it; nothing else of the
world changes. -/
def Runner.Logged (r : Runner) : Prop :=
  ∀ m path params w, ∃ t : Remote.Tracker,
    (StateT.run (r.send m path params) w).2 = { w with tracker := t } ∧
      t.log = w.tracker.log ++ [⟨m, path, params⟩]

theorem World.emit_tracker (w : World) (e : Event) : (w.emit e).tracker = w.tracker := by
  unfold World.emit
  dsimp only
  split <;> rfl

namespace Remote.Tracker

theorem checkPlanted_log (t : Tracker) (m : Method) (path : String) :
    (t.checkPlanted m path).1.log = t.log := by
  unfold checkPlanted
  split
  · rfl
  · split
    · split <;> rfl
    · rfl

theorem answerItem_log (t : Tracker) (m : Method) (path : String) (params : Params) :
    (t.answerItem m path params).1.log = t.log := by
  unfold answerItem
  split
  · rfl
  · split
    · rfl
    · split
      · rfl
      · rfl
      · dsimp only
        split <;> rfl

theorem respond_log (t : Tracker) (m : Method) (path : String) (params : Params) :
    (t.respond m path params).1.log = t.log := by
  unfold respond
  split
  · next t' f planted => rw [← checkPlanted_log t m path, planted]
  · next t' planted =>
    have kept : t'.log = t.log := by rw [← checkPlanted_log t m path, planted]
    split
    · dsimp only
      split <;> exact kept
    · rw [answerItem_log, kept]

theorem request_log (t : Tracker) (m : Method) (path : String) (params : Params) :
    (t.request m path params).1.log = t.log ++ [⟨m, path, params⟩] := by
  unfold request
  rw [respond_log]

end Remote.Tracker

theorem Runner.logged_of_scripted {r : Runner} (scripted : r.send = World.sendScripted) : r.Logged := by
  intro m path params w
  rw [scripted]
  exact ⟨(w.tracker.request m path params).1, rfl, Remote.Tracker.request_log _ _ _ _⟩

namespace Store

def evict (s : Store) (keys : List String) : Store :=
  keys.foldl (fun s key => (s.remove nsCache key).2) s

def CacheEvicted (s s' : Store) : Prop := ∃ keys, s' = s.evict keys

instance : IsPreorder Store CacheEvicted where
  refl s := ⟨[], rfl⟩
  trans _ _ _ := by
    rintro ⟨keys, rfl⟩ ⟨keys', rfl⟩
    exact ⟨keys ++ keys', by rw [evict, evict, evict, List.foldl_append]⟩

theorem cacheEvicted_remove (s : Store) (key : String) : CacheEvicted s (s.remove nsCache key).2 :=
  ⟨[key], rfl⟩

end Store

namespace StoreAct

/-- Every run of a store action leaves a store related by `S` to the one it started from. -/
def Keeps (S : Store → Store → Prop) {α : Type} (act : StoreAct α) : Prop :=
  ∀ p : Store × List Event, S p.1 ((ExceptT.run act).run p).2.1

variable {S : Store → Store → Prop} {α β : Type}

theorem Keeps.run {act : StoreAct α} (keeps : Keeps S act) (s : Store) : S s (act.run s).2.1 :=
  keeps (s, [])

variable [IsPreorder Store S]

theorem Keeps.pure (a : α) : Keeps S (Pure.pure a : StoreAct α) := fun _ => refl _

theorem Keeps.bind {x : StoreAct α} {f : α → StoreAct β} (hx : Keeps S x) (hf : ∀ a, Keeps S (f a)) :
    Keeps S (x >>= f) := by
  intro p
  rw [ExceptT.run_bind, StateT.run_bind]
  have first := hx p
  generalize (ExceptT.run x).run p = q at first ⊢
  obtain ⟨result, p'⟩ := q
  cases result with
  | ok a => exact IsTrans.trans _ _ _ first (hf a p')
  | error e => exact first

theorem Keeps.store : Keeps S StoreAct.store := fun _ => refl _

theorem Keeps.emit (e : Event) : Keeps S (StoreAct.emit e) := fun _ => refl _

theorem Keeps.delete {ns key : String} (removed : ∀ s : Store, S s (s.remove ns key).2) :
    Keeps S (StoreAct.delete ns key) := by
  rintro ⟨s, es⟩
  rw [StoreAct.delete_unfold]
  unfold Store.delete
  by_cases failing : s.faults.failDeletes
  · rw [if_pos failing]
    exact refl s
  · rw [if_neg failing]
    exact removed s

end StoreAct

namespace Cache

open StoreAct

theorem evict_evicts (remoteId : String) : Keeps Store.CacheEvicted (evict remoteId) := by
  unfold evict
  refine Keeps.bind (Keeps.delete fun s => Store.cacheEvicted_remove s remoteId) fun existed => ?_
  split
  · exact Keeps.emit _
  · exact Keeps.pure _

theorem load_evicts (remoteId : String) : Keeps Store.CacheEvicted (load remoteId) := by
  unfold load
  refine Keeps.bind Keeps.store fun s => ?_
  split
  · exact Keeps.pure _
  · split
    · exact Keeps.pure _
    · exact Keeps.bind (evict_evicts remoteId) fun _ => Keeps.pure _

/-- Reading the cache removes at most the entry it reads: a stale or unreadable one. -/
theorem get_evicts (c : CacheClock) (remoteId : String) : Keeps Store.CacheEvicted (get c remoteId) := by
  unfold get
  refine Keeps.bind (load_evicts remoteId) fun entry => ?_
  split
  · exact Keeps.pure _
  · split
    · exact Keeps.pure _
    · exact Keeps.bind (evict_evicts remoteId) fun _ => Keeps.pure _

end Cache

namespace SyncM

/-- Every run of the action ends in a world along `S` and `T` from the one it started in. -/
def Stays (S : Store → Store → Prop) (T : Remote.Tracker → Remote.Tracker → Prop) {α : Type}
    (act : SyncM α) : Prop :=
  ∀ w, World.Along S T w (StateT.run act w).2

theorem store_run {α : Type} (act : StoreAct α) (w : World) :
    (StateT.run (store act) w).2 =
      (StateT.run (emitAll (act.run w.store).2.2) { w with store := (act.run w.store).2.1 }).2 :=
  rfl

section Closure

variable {S : Store → Store → Prop} {T : Remote.Tracker → Remote.Tracker → Prop}
  [IsPreorder Store S] [IsPreorder Remote.Tracker T] {α β : Type}

theorem Stays.of_world {act : SyncM α}
    (h : ∀ w, (StateT.run act w).2.store = w.store ∧ (StateT.run act w).2.tracker = w.tracker) :
    Stays S T act := by
  intro w
  obtain ⟨store, tracker⟩ := h w
  exact ⟨store ▸ refl _, tracker ▸ refl _⟩

theorem Stays.pure (a : α) : Stays S T (Pure.pure a : SyncM α) :=
  Stays.of_world fun _ => ⟨rfl, rfl⟩

theorem Stays.get : Stays S T (MonadState.get : SyncM World) :=
  Stays.of_world fun _ => ⟨rfl, rfl⟩

theorem Stays.bind {x : SyncM α} {f : α → SyncM β} (hx : Stays S T x) (hf : ∀ a, Stays S T (f a)) :
    Stays S T (x >>= f) := by
  intro w
  rw [StateT.run_bind]
  obtain ⟨s₁, t₁⟩ := hx w
  obtain ⟨s₂, t₂⟩ := hf (StateT.run x w).1 (StateT.run x w).2
  exact ⟨IsTrans.trans _ _ _ s₁ s₂, IsTrans.trans _ _ _ t₁ t₂⟩

theorem Stays.emit (e : Event) : Stays S T (emit e) :=
  Stays.of_world fun w => ⟨World.emit_store w e, World.emit_tracker w e⟩

theorem Stays.emitAll (es : List Event) : Stays S T (emitAll es) := by
  induction es with
  | nil => exact Stays.pure ()
  | cons e rest ih => exact Stays.bind (Stays.emit e) fun _ => ih

/-- Entering a phase keeps `S` and `T` when the other writer, who acts as the apply phase
begins, does. -/
theorem Stays.setPhase {r : Runner} (other : ∀ w, World.Along S T w (r.onApply w)) (p : Phase) :
    Stays S T (setPhase r p) := by
  refine Stays.bind (Stays.of_world fun _ => ⟨rfl, rfl⟩) fun _ =>
    Stays.bind (Stays.emit _) fun _ => ?_
  cases p
  case apply => exact other
  all_goals exact Stays.pure ()

theorem Stays.localFor (remoteId : String) : Stays S T (localFor remoteId) :=
  Stays.of_world fun _ => ⟨rfl, rfl⟩

theorem Stays.mint (kind : Kind) : Stays S T (mint kind) :=
  Stays.of_world fun _ => ⟨rfl, rfl⟩

theorem Stays.cacheClock (r : Runner) : Stays S T (cacheClock r) :=
  Stays.of_world fun _ => ⟨rfl, rfl⟩

/-- A store action inside a sync action: the world keeps its tracker, and its store goes where
the store action takes it. -/
theorem Stays.store {act : StoreAct α} (h : ∀ s, S s (act.run s).2.1) : Stays S T (store act) := by
  intro w
  rw [store_run]
  obtain ⟨stored, tracked⟩ := Stays.emitAll (S := S) (T := T) (act.run w.store).2.2
    { w with store := (act.run w.store).2.1 }
  exact ⟨IsTrans.trans _ _ _ (h w.store) stored, tracked⟩

theorem Stays.send {r : Runner} (logged : r.Logged) {m : Remote.Method} (notPatch : m ≠ .patch)
    (path : String) (params : Remote.Params) :
    Stays S Remote.Tracker.SentNoPatch (r.send m path params) := by
  intro w
  obtain ⟨t, sent, log⟩ := logged m path params w
  rw [sent]
  exact ⟨refl _, [⟨m, path, params⟩], log, by simpa using notPatch⟩

end Closure

section Planning

variable {S : Store → Store → Prop} {T : Remote.Tracker → Remote.Tracker → Prop}
  [IsPreorder Store S] [IsPreorder Remote.Tracker T]

theorem Stays.normalizeItem (item : Json) : Stays S T (normalizeItem item) := by
  unfold SyncM.normalizeItem
  dsimp only
  refine Stays.bind (Stays.emitAll _) fun _ => ?_
  split
  · exact Stays.pure _
  · exact Stays.bind (Stays.localFor _) fun _ => Stays.pure _

theorem Stays.normalizeItems (items : List Json) : Stays S T (SyncM.normalizeItems items) := by
  induction items with
  | nil => exact Stays.pure _
  | cons item rest ih =>
    rw [SyncM.normalizeItems]
    refine Stays.bind (Stays.normalizeItem item) fun head => Stays.bind ih fun _ => ?_
    split
    cases head <;> exact Stays.pure _

theorem Stays.pair (r : Runner) (kind : Kind) (remote : Snapshot) (targeted : Bool) :
    Stays S T (pair r kind remote targeted) := by
  unfold SyncM.pair
  refine Stays.bind Stays.get fun w => ?_
  split
  · exact Stays.pure _
  · split <;> exact Stays.pure _
  · split
    · exact Stays.bind (Stays.mint kind) fun _ => Stays.bind Stays.get fun _ => Stays.pure _
    · exact Stays.pure _

theorem Stays.plan (r : Runner) (kind : Kind) (remote : Snapshot) (targeted : Bool) :
    Stays S T (plan r kind remote targeted) := by
  unfold SyncM.plan
  refine Stays.bind (Stays.pair r kind remote targeted) fun paired => ?_
  split
  · exact Stays.pure _
  · exact Stays.pure _
  · dsimp only
    refine Stays.bind (Stays.emitAll _) fun _ => Stays.bind Stays.get fun _ => ?_
    split <;> exact Stays.pure _

theorem Stays.planAll (r : Runner) (kind : Kind) (targeted : Bool) (remotes : List Snapshot) :
    Stays S T (SyncM.planAll r kind targeted remotes) := by
  induction remotes with
  | nil => exact Stays.pure _
  | cons remote rest ih =>
    rw [SyncM.planAll]
    refine Stays.bind (Stays.plan r kind remote targeted) fun head => Stays.bind ih fun _ => ?_
    split
    rcases head with _ | _ | _ <;> exact Stays.pure _

end Planning

section Reading

variable {S : Store → Store → Prop} {T : Remote.Tracker → Remote.Tracker → Prop}
  [IsPreorder Store S] [IsPreorder Remote.Tracker T]

theorem Stays.fetchPages {r : Runner} (gets : ∀ path params, Stays S T (r.send .get path params))
    (endpoint : String) (params : Remote.Params) (perPage maxPages : Nat) :
    ∀ left page acc,
      Stays S T (Remote.fetchPages r.send SyncM.emit endpoint params perPage maxPages left page acc)
  | 0, _, _ => Stays.pure _
  | left + 1, page, acc => by
    rw [Remote.fetchPages]
    refine Stays.bind (gets _ _) fun answer => ?_
    split
    · exact Stays.pure _
    · refine Stays.bind (Stays.emit _) fun _ => ?_
      split
      · exact Stays.pure _
      · split
        · exact Stays.pure _
        · split
          · exact Stays.bind (Stays.emit _) fun _ => Stays.pure _
          · exact Stays.fetchPages gets endpoint params perPage maxPages left (page + 1) _

theorem Stays.fetchAll {r : Runner} (gets : ∀ path params, Stays S T (r.send .get path params))
    (endpoint : String) (params : Remote.Params) (perPage maxPages : Nat) :
    Stays S T (Remote.fetchAll r.send SyncM.emit endpoint params perPage maxPages) :=
  Stays.fetchPages gets endpoint params _ _ _ _ _

theorem Stays.fetchOne {r : Runner} (gets : ∀ path params, Stays S T (r.send .get path params))
    (endpoint remoteId : String) : Stays S T (Remote.fetchOne r.send endpoint remoteId) := by
  unfold Remote.fetchOne
  exact Stays.bind (gets _ _) fun answer => by split <;> exact Stays.pure _

theorem Stays.gather {r : Runner} (other : ∀ w, World.Along S T w (r.onApply w))
    (gets : ∀ path params, Stays S T (r.send .get path params))
    (cached : ∀ c remoteId, ∀ s, S s ((Cache.get c remoteId).run s).2.1)
    (collection : Collection) :
    ∀ remoteIds snaps failed, Stays S T (gather r collection remoteIds snaps failed)
  | [], _, _ => Stays.pure _
  | remoteId :: rest, snaps, failed => by
    rw [SyncM.gather]
    refine Stays.bind (Stays.cacheClock r) fun clock => ?_
    refine Stays.bind (Stays.store (cached clock remoteId)) fun found => ?_
    split
    · exact Stays.pure _
    · exact Stays.gather other gets cached collection rest _ _
    · refine Stays.bind (Stays.fetchOne gets _ _) fun fetched => ?_
      split
      · refine Stays.bind (Stays.normalizeItem _) fun normalized => ?_
        split
        · exact Stays.gather other gets cached collection rest _ _
        · exact Stays.gather other gets cached collection rest _ _
      · exact Stays.bind (Stays.localFor _) fun _ =>
          Stays.gather other gets cached collection rest _ _
      · split
        · exact Stays.bind (Stays.setPhase other _) fun _ => Stays.pure _
        · exact Stays.bind (Stays.localFor _) fun _ =>
            Stays.gather other gets cached collection rest _ _

end Reading

end SyncM

end TrackerSync
