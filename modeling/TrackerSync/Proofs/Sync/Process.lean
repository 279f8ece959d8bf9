import TrackerSync.Proofs.Sync.Effects
import TrackerSync.Proofs.Sync.Shortcut

/-!
Processing one planned entity: checked again against the store, then carried out, dropped or
cancelled.
-/

namespace TrackerSync

deriving instance ReflBEq, LawfulBEq for Kind, Entity

namespace Pairing

/-- A pairing as planning finds it in the store `s` for a remote id: a linked item loaded from
the local id the remote id is linked to, or an import of an unlinked item in an untargeted run. -/
def FoundIn (s : Store) (remoteId : String) (targeted : Bool) : Pairing → Prop
  | .linked e => ∃ id, Links.localFor s remoteId = .ok (some id) ∧ s.load id = .ok (some e)
  | .imported _ => Links.localFor s remoteId = .ok none ∧ targeted = false

/-- The local side of a pairing reads from the store `s`: a linked item loads from one of its
rows. -/
def LoadsFrom (s : Store) : Pairing → Prop
  | .linked e => ∃ id, s.load id = .ok (some e)
  | .imported _ => True

theorem FoundIn.loadsFrom {s : Store} {remoteId : String} {targeted : Bool} {pairing : Pairing}
    (found : pairing.FoundIn s remoteId targeted) : pairing.LoadsFrom s := by
  cases pairing with
  | linked e =>
    obtain ⟨id, -, loaded⟩ := found
    exact ⟨id, loaded⟩
  | imported e => trivial

end Pairing

namespace Plan

/-- A plan as planning makes it: its ids are those of its two sides, and its detection, when it
has one, compares its base, its normalized local item and its remote item. -/
structure WellFormed (policy : SeedPolicy) (q : Plan) : Prop where
  remoteId : q.remoteId = q.remote.id
  localId : q.localId = q.pairing.entity.id
  detection : q.detection = none ∨
    q.detection = some (detect policy (q.base.map (·.snapshot)) q.localSnapshot q.remote)

def reportOf (q : Plan) : Except Error Unit → EntityReport
  | .ok () => q.report
  | .error e => { q.report with outcome := .failed, error := some e.message }

theorem outcome_ne_failed (q : Plan) : q.outcome ≠ .failed := by
  unfold Plan.outcome
  split
  · decide
  · split
    · decide
    split
    · decide
    split
    · decide
    split <;> decide

theorem reportOf_failed (q : Plan) (result : Except Error Unit) :
    (q.reportOf result).outcome = .failed ↔ ∃ e, result = .error e := by
  cases result with
  | ok u => simpa [reportOf, report] using q.outcome_ne_failed
  | error e => simp [reportOf]

end Plan

namespace SyncM

/-- What pairing a remote item against the store `s` gives: a failed entity, no local side for
an item that is not linked, or a pairing found in `s`. -/
inductive Paired (s : Store) (remote : Snapshot) (targeted : Bool) :
    Except EntityReport (Option Pairing) → Prop
  | failed (rep : EntityReport) : rep.outcome = .failed → Paired s remote targeted (.error rep)
  | unlinked : Links.localFor s remote.id = .ok none → Paired s remote targeted (.ok none)
  | found (pairing : Pairing) : pairing.FoundIn s remote.id targeted →
      Paired s remote targeted (.ok (some pairing))

theorem pair_paired (r : Runner) (kind : Kind) (remote : Snapshot) (targeted : Bool) (w : World) :
    Paired w.store remote targeted (StateT.run (pair r kind remote targeted) w).1 := by
  unfold pair
  rw [run_bind, run_get]
  dsimp only
  split
  · exact .failed _ rfl
  · next id linked =>
    split
    · next e loaded => exact .found (.linked e) ⟨id, linked, loaded⟩
    · exact .failed _ rfl
    · exact .failed _ rfl
  · next unlinked =>
    split
    · next importing =>
      have untargeted : targeted = false := (by simpa using importing : _ ∧ _).2
      exact .found (.imported _) ⟨unlinked, untargeted⟩
    · exact .unlinked unlinked

/-- What planning a remote item against the store `s` gives: a failed entity, no local side for
an item that is not linked, or a well-formed plan of the item whose pairing was found in `s`. -/
inductive Planned (policy : SeedPolicy) (s : Store) (remote : Snapshot) (targeted : Bool) :
    Except EntityReport (Option Plan) → Prop
  | failed (rep : EntityReport) : rep.outcome = .failed →
      Planned policy s remote targeted (.error rep)
  | unlinked : Links.localFor s remote.id = .ok none → Planned policy s remote targeted (.ok none)
  | made (q : Plan) : q.remote = remote → q.WellFormed policy →
      q.pairing.FoundIn s remote.id targeted → Planned policy s remote targeted (.ok (some q))

theorem plan_planned (r : Runner) (kind : Kind) (remote : Snapshot) (targeted : Bool) (w : World) :
    Planned r.options.seedPolicy w.store remote targeted
      (StateT.run (plan r kind remote targeted) w).1 := by
  unfold plan
  rw [run_bind]
  have paired := pair_paired r kind remote targeted w
  have kept : w.store = (StateT.run (pair r kind remote targeted) w).2.store :=
    (Stays.pair (S := Eq) (T := Eq) r kind remote targeted w).1
  generalize StateT.run (pair r kind remote targeted) w = out at paired kept ⊢
  obtain ⟨res, w₁⟩ := out
  dsimp only at paired kept ⊢
  cases paired with
  | failed rep failed => exact .failed rep failed
  | unlinked unlinked => exact .unlinked unlinked
  | found pairing found =>
    dsimp only
    rw [run_bind]
    have emitted := (Effect.emitAll pairing.entity.normalize.2 w₁).1
    generalize StateT.run (emitAll pairing.entity.normalize.2) w₁ = out at emitted ⊢
    obtain ⟨u, w₂⟩ := out
    dsimp only at emitted ⊢
    rw [run_bind, run_get]
    dsimp only
    rw [emitted, ← kept]
    split
    · exact .failed _ rfl
    · next base loaded =>
      refine .made _ rfl ⟨rfl, rfl, ?_⟩ found
      -- the detection is skipped or made, whatever decided it
      dsimp only
      split <;> split
      all_goals first | exact .inl rfl | exact .inr rfl

/-- What checking a plan again against the store `s` gives: a failed entity, no plan (the item
lost its link), the plan kept, or a plan made anew from the same listed remote item. -/
inductive Rechecked (policy : SeedPolicy) (s : Store) (p : Plan) :
    Except EntityReport (Option Plan) → Prop
  | failed (rep : EntityReport) : rep.outcome = .failed → Rechecked policy s p (.error rep)
  | unlinked : Rechecked policy s p (.ok none)
  | kept : p.pairing.LoadsFrom s → Rechecked policy s p (.ok (some p))
  | replanned (q : Plan) : q.remote = p.remote → q.WellFormed policy →
      q.pairing.FoundIn s p.remote.id (!p.pairing.isImport) → Rechecked policy s p (.ok (some q))

/-- The plan an entity is carried out as, once checked again: of the same remote item and id as
the plan it was checked from, well formed, with its local side read from the store. -/
theorem Rechecked.carried {policy : SeedPolicy} {s : Store} {p q : Plan}
    (rechecked : Rechecked policy s p (.ok (some q))) (wellFormed : p.WellFormed policy) :
    q.remoteId = p.remoteId ∧ q.remote = p.remote ∧ q.WellFormed policy ∧
      q.pairing.LoadsFrom s := by
  cases rechecked with
  | kept loads => exact ⟨rfl, rfl, wellFormed, loads⟩
  | replanned q remote wellFormed' found =>
    refine ⟨?_, remote, wellFormed', found.loadsFrom⟩
    rw [wellFormed'.remoteId, remote, wellFormed.remoteId]

theorem localFor_run (remoteId : String) (w : World) :
    StateT.run (localFor remoteId) w = ((Links.localFor w.store remoteId).toOption.join, w) := rfl

theorem loadsFrom_of_sameSide {s : Store} {before : Entity}
    (same : ((s.load before.id).toOption.join == some before) = true) :
    (Pairing.linked before).LoadsFrom s := by
  refine ⟨before.id, ?_⟩
  cases loaded : s.load before.id with
  | error e => simp [loaded, Except.toOption] at same
  | ok found => simpa [loaded, Except.toOption] using same

theorem Planned.rechecked {policy : SeedPolicy} {s : Store} {p : Plan}
    {res : Except EntityReport (Option Plan)}
    (planned : Planned policy s p.remote (!p.pairing.isImport) res) : Rechecked policy s p res := by
  cases planned with
  | failed rep failed => exact .failed rep failed
  | unlinked _ => exact .unlinked
  | made q remote wellFormed found => exact .replanned q remote wellFormed found

theorem refresh_rechecked (r : Runner) (kind : Kind) (p : Plan) (w : World) :
    Rechecked r.options.seedPolicy w.store p (StateT.run (refresh r kind p) w).1 := by
  unfold refresh
  rw [run_bind, run_get, run_bind, localFor_run]
  dsimp only
  split
  · next before pairing =>
    split
    · next same =>
      refine .kept ?_
      rw [pairing]
      exact loadsFrom_of_sameSide (Bool.and_eq_true_iff.mp same).2
    · exact (plan_planned r kind p.remote _ w).rechecked
  · next created pairing =>
    split
    · refine .kept ?_
      rw [pairing]
      trivial
    · exact (plan_planned r kind p.remote _ w).rechecked

theorem Stays.refresh {S : Store → Store → Prop} {T : Remote.Tracker → Remote.Tracker → Prop}
    [IsPreorder Store S] [IsPreorder Remote.Tracker T] (r : Runner) (kind : Kind) (p : Plan) :
    Stays S T (refresh r kind p) := by
  unfold SyncM.refresh
  refine Stays.bind Stays.get fun w => Stays.bind (Stays.localFor _) fun linkNow => ?_
  -- whichever side the plan has, it is kept or planned anew
  split
  all_goals
    dsimp only
    split
    · exact Stays.pure _
    · exact Stays.plan (S := S) (T := T) r kind p.remote _

theorem Effect.forM_emit {γ : Type} (l : List γ) (f : γ → Event) :
    Effect id [] (l.forM fun c => SyncM.emit (f c)) := by
  induction l with
  | nil => exact Effect.pure ()
  | cons c rest ih => exact Effect.bind (Effect.emit (f c)) fun _ => ih

/-- How carrying out a plan ends, from the store `s` and the log `log`: with no detection its
cache entry is refreshed, else it ends as `ApplyOutcome` lists. -/
inductive Applied (collection : Collection) (q : Plan) (clock : CacheClock) (now : Int)
    (s : Store) (log : List Remote.Sent) : Except Error Unit → Store → List Remote.Sent → Prop
  | cached : q.detection = none →
      Applied collection q clock now s log (.ok ())
        (s.writeBatch [Cache.putOp clock q.remoteId q.remote]).1 log
  | detected (d : Detection) {result : Except Error Unit} {s' : Store} {log' : List Remote.Sent} :
      q.detection = some d → ApplyOutcome collection q d clock now s log result s' log' →
      Applied collection q clock now s log result s' log'

theorem apply_applied {r : Runner} (logged : r.Logged) (collection : Collection) (q : Plan)
    (w : World) :
    Applied collection q { ttl := r.ttl, now := w.clock } w.wallClock w.store w.tracker.log
      (StateT.run (apply r collection q) w).1 (StateT.run (apply r collection q) w).2.store
      (StateT.run (apply r collection q) w).2.tracker.log := by
  cases detected : q.detection with
  | none =>
    obtain ⟨stored, logged⟩ := refreshCache_run r q w
    have ran : StateT.run (apply r collection q) w =
        (.ok (), (StateT.run (refreshCache r q) w).2) := by
      simp only [apply, detected]
      rfl
    rw [ran, stored, logged]
    exact .cached detected
  | some d => exact .detected d detected (apply_outcome logged collection detected w)

/-- How processing a planned entity ends, with its report, the store and the tracker's log, from
the store `s` and the log `log`. -/
inductive ProcessOutcome (collection : Collection) (policy : SeedPolicy) (p : Plan) (s : Store)
    (log : List Remote.Sent) : EntityReport → Store → List Remote.Sent → Prop
  /-- Cancelled before it started: nothing is written. -/
  | cancelled :
      ProcessOutcome collection policy p s log (EntityReport.cancelled p.remoteId (some p.localId))
        s log
  /-- Checking it again failed or found its link gone: nothing is written. -/
  | dropped (rep : EntityReport) : rep.outcome = .failed →
      ProcessOutcome collection policy p s log rep s log
  /-- Carried out as the plan `q` it was checked again into. -/
  | carried (q : Plan) (clock : CacheClock) (now : Int) (result : Except Error Unit) (s' : Store)
      (log' : List Remote.Sent) : Rechecked policy s p (.ok (some q)) →
      Applied collection q clock now s log result s' log' →
      ProcessOutcome collection policy p s log (q.reportOf result) s' log'

/-- Processing a plan step by step: it ends cancelled or dropped with nothing written, or it
checks the plan again into `q`, in the world `w₁`, and what carrying `q` out from there gives is
the entity's report, store and log. -/
theorem process_steps (r : Runner) (collection : Collection) (abort : Bool) (p : Plan) (w : World) :
    ((StateT.run (process r collection abort p) w).1.1 =
          EntityReport.cancelled p.remoteId (some p.localId) ∨
        (StateT.run (process r collection abort p) w).1.1.outcome = .failed) ∧
      (StateT.run (process r collection abort p) w).2.store = w.store ∧
      (StateT.run (process r collection abort p) w).2.tracker.log = w.tracker.log ∨
    ∃ q w₁, StateT.run (refresh r collection.kind p) w = (.ok (some q), w₁) ∧
      (StateT.run (process r collection abort p) w).1.1 =
        q.reportOf (StateT.run (apply r collection q) w₁).1 ∧
      (StateT.run (process r collection abort p) w).2.store =
        (StateT.run (apply r collection q) w₁).2.store ∧
      (StateT.run (process r collection abort p) w).2.tracker.log =
        (StateT.run (apply r collection q) w₁).2.tracker.log := by
  unfold process
  rw [run_bind, run_get]
  dsimp only
  split
  · exact .inl ⟨.inl rfl, rfl, rfl⟩
  rw [run_bind]
  have rechecked := refresh_rechecked r collection.kind p w
  obtain ⟨s₁, t₁⟩ := Stays.refresh (S := Eq) (T := Eq) r collection.kind p w
  generalize StateT.run (refresh r collection.kind p) w = out at rechecked s₁ t₁ ⊢
  obtain ⟨res, w₁⟩ := out
  dsimp only at rechecked s₁ t₁ ⊢
  rcases res with rep | _ | q
  · cases rechecked with
    | failed rep failed => exact .inl ⟨.inr failed, s₁.symm, congrArg _ t₁.symm⟩
  · exact .inl ⟨.inr rfl, s₁.symm, congrArg _ t₁.symm⟩
  · refine .inr ⟨q, w₁, rfl, ?_⟩
    dsimp only
    rw [run_bind]
    generalize StateT.run (apply r collection q) w₁ = out
    obtain ⟨result, w₂⟩ := out
    dsimp only
    -- what is left emits the entity's events and returns its report
    have closing : ∀ {act : SyncM (EntityReport × Option SyncError)}, Effect id [] act →
        (StateT.run act w₂).1.1 = q.reportOf result →
        (StateT.run act w₂).1.1 = q.reportOf result ∧ (StateT.run act w₂).2.store = w₂.store ∧
          (StateT.run act w₂).2.tracker.log = w₂.tracker.log := by
      intro act closes reported
      obtain ⟨stored, logged, -, -⟩ := closes w₂
      exact ⟨reported, stored, logged.trans (List.append_nil _)⟩
    cases result with
    | ok u =>
      dsimp only
      split
      · exact closing (Effect.bind (Effect.emit _) fun _ =>
          Effect.bind (Effect.forM_emit _ _) fun _ => Effect.pure _) rfl
      · exact closing (Effect.bind (Effect.forM_emit _ _) fun _ => Effect.pure _) rfl
    | error e => exact closing (Effect.bind (Effect.emit _) fun _ => Effect.pure _) rfl

theorem process_outcome {r : Runner} (logged : r.Logged) (collection : Collection) (abort : Bool)
    {p : Plan} (w : World) :
    ProcessOutcome collection r.options.seedPolicy p w.store w.tracker.log
      (StateT.run (process r collection abort p) w).1.1
      (StateT.run (process r collection abort p) w).2.store
      (StateT.run (process r collection abort p) w).2.tracker.log := by
  rcases process_steps r collection abort p w with
    ⟨cancelled | failed, stored, sent⟩ | ⟨q, w₁, refreshed, reported, stored, sent⟩
  · rw [cancelled, stored, sent]
    exact .cancelled
  · rw [stored, sent]
    exact .dropped _ failed
  · have rechecked := refresh_rechecked r collection.kind p w
    obtain ⟨s₁, t₁⟩ := Stays.refresh (S := Eq) (T := Eq) r collection.kind p w
    rw [refreshed] at rechecked s₁ t₁
    have applied := apply_applied logged collection q w₁
    rw [← s₁, ← t₁, ← stored, ← sent] at applied
    rw [reported]
    exact .carried q _ _ _ _ _ rechecked applied

end SyncM

end TrackerSync
