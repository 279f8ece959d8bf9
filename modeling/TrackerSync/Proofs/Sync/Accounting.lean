import TrackerSync.Proofs.Sync.Effects
import Mathlib.Data.String.Basic

/-!
Accounting for every item of a run: each listed item is reported or skipped once, and a run
ends with an error exactly when its listing or a push's credentials are refused.
-/

namespace TrackerSync

namespace SyncM

def Yields {α : Type} (act : SyncM α) (P : α → Prop) : Prop :=
  ∀ w, P (StateT.run act w).1

section Yields

variable {α β : Type}

theorem run_pure (a : α) (w : World) : StateT.run (Pure.pure a : SyncM α) w = (a, w) := rfl

theorem Yields.pure {P : α → Prop} {a : α} (holds : P a) : Yields (Pure.pure a : SyncM α) P :=
  fun _ => holds

theorem Yields.trivial (act : SyncM α) : Yields act fun _ => True := fun _ => True.intro

theorem Yields.bind {x : SyncM α} {f : α → SyncM β} {P : α → Prop} {Q : β → Prop}
    (first : Yields x P) (next : ∀ a, P a → Yields (f a) Q) : Yields (x >>= f) Q := by
  intro w
  rw [run_bind]
  exact next _ (first w) _

theorem Yields.imp {x : SyncM α} {P Q : α → Prop} (yields : Yields x P) (weaker : ∀ a, P a → Q a) :
    Yields x Q :=
  fun w => weaker _ (yields w)

theorem Yields.seq {x : SyncM α} {f : α → SyncM β} {Q : β → Prop} (next : ∀ a, Yields (f a) Q) :
    Yields (x >>= f) Q :=
  Yields.bind (Yields.trivial x) fun a _ => next a

end Yields

theorem normalizeItems_length (items : List Json) :
    Yields (normalizeItems items) fun normalized =>
      normalized.1.length + normalized.2.length = items.length := by
  induction items with
  | nil => exact Yields.pure rfl
  | cons item rest ih =>
    unfold normalizeItems
    refine Yields.seq fun head => Yields.bind ih fun normalized counted => ?_
    -- the item becomes a snapshot or a failed entity
    cases head <;>
      · refine Yields.pure ?_
        simp only [List.length_cons] at counted ⊢
        omega

theorem planAll_length (r : Runner) (kind : Kind) (targeted : Bool) (remotes : List Snapshot) :
    Yields (planAll r kind targeted remotes) fun planned =>
      planned.1.length + planned.2.1.length + planned.2.2 = remotes.length := by
  induction remotes with
  | nil => exact Yields.pure rfl
  | cons remote rest ih =>
    unfold planAll
    refine Yields.seq fun head => Yields.bind ih fun tail counted => ?_
    obtain ⟨plans, failed, skipped⟩ := tail
    -- the snapshot becomes a plan, a failed entity or one more unlinked item
    rcases head with rep | _ | p <;>
      · refine Yields.pure ?_
        simp only [List.length_cons] at counted ⊢
        omega

/-- An entity processed in a run: its plan, whether it was told to abort, and the world it
started from. -/
structure Processing where
  plan : Plan
  abort : Bool
  start : World

namespace Processing

/-- Processing the entity: its report, the failure it aborts the run with, if any, and the world
it leaves. -/
def run (r : Runner) (collection : Collection) (x : Processing) :
    (EntityReport × Option SyncError) × World :=
  StateT.run (process r collection x.abort x.plan) x.start

/-- The tracker refused the push of the entity with `f`: the entity was neither cancelled nor
told to abort, its plan was checked again into `q`, and carrying `q` out ended with the refusal. -/
def PushRefused (r : Runner) (collection : Collection) (x : Processing) (f : Remote.Failure) :
    Prop :=
  ((!r.startsTogether && x.start.cancelled) || x.abort) = false ∧
    ∃ q, (StateT.run (refresh r collection.kind x.plan) x.start).1 = .ok (some q) ∧
      (StateT.run (apply r collection q)
        (StateT.run (refresh r collection.kind x.plan) x.start).2).1 = .error (.remote f)

end Processing

/-- Entities processed one after another from `w`, each starting in the world the one before it
left. -/
def Chained (r : Runner) (collection : Collection) : World → List Processing → Prop
  | _, [] => True
  | w, x :: rest => x.start = w ∧ Chained r collection (x.run r collection).2 rest

def chainEnd (r : Runner) (collection : Collection) : World → List Processing → World
  | w, [] => w
  | _, x :: rest => chainEnd r collection (x.run r collection).2 rest

def firstFatal (r : Runner) (collection : Collection) (fatal : Option SyncError)
    (trace : List Processing) : Option SyncError :=
  trace.foldl (fun f x => f <|> (x.run r collection).1.2) fatal

theorem firstFatal_eq_foldl (r : Runner) (collection : Collection) (fatal : Option SyncError)
    (now : List Processing) :
    (now.map fun x => (x.run r collection).1).foldl (fun f (_, e) => f <|> e) fatal =
      firstFatal r collection fatal now := List.foldl_map

/-- The entities processed by rounds from world `w`, with the failure `fatal` carried in. The
entities of a round are told to abort when a failure was carried in or, when they start together,
when the run was cancelled as the round began; the next round carries the first failure so far. -/
inductive ProcessedRounds (r : Runner) (collection : Collection) :
    Option SyncError → World → List (List Plan) → List Processing → Prop
  | nil (fatal : Option SyncError) (w : World) : ProcessedRounds r collection fatal w [] []
  | cons {fatal : Option SyncError} {w : World} {round : List Plan} {rest : List (List Plan)}
      {now later : List Processing} :
      Chained r collection w now → now.map (·.plan) = round →
      (∀ x ∈ now, x.abort = (fatal.isSome || (r.startsTogether && w.cancelled))) →
      ProcessedRounds r collection (firstFatal r collection fatal now) (chainEnd r collection w now)
        rest later →
      ProcessedRounds r collection fatal w (round :: rest) (now ++ later)

theorem processRound_chained (r : Runner) (collection : Collection) (abort : Bool)
    (round : List Plan) (w : World) :
    ∃ now : List Processing, Chained r collection w now ∧ now.map (·.plan) = round ∧
      (∀ x ∈ now, x.abort = abort) ∧
      StateT.run (processRound r collection abort round) w =
        (now.map fun x => (x.run r collection).1, chainEnd r collection w now) := by
  induction round generalizing w with
  | nil =>
    refine ⟨[], True.intro, rfl, ?_, rfl⟩
    intro x mem
    cases mem
  | cons p rest ih =>
    let x : Processing := ⟨p, abort, w⟩
    obtain ⟨later, chained, plans, aborts, ran⟩ := ih (x.run r collection).2
    refine ⟨x :: later, ⟨rfl, chained⟩, by rw [List.map_cons, plans], ?_, ?_⟩
    · intro y mem
      rcases List.mem_cons.mp mem with rfl | mem
      · rfl
      · exact aborts y mem
    · rw [processRound, run_bind, run_bind]
      exact congrArg (fun out => ((x.run r collection).1 :: out.1, out.2)) ran

theorem firstFatal_append (r : Runner) (collection : Collection) (fatal : Option SyncError)
    (now later : List Processing) :
    firstFatal r collection fatal (now ++ later) =
      firstFatal r collection (firstFatal r collection fatal now) later :=
  List.foldl_append

theorem processRounds_traced (r : Runner) (collection : Collection) (fatal : Option SyncError)
    (rounds : List (List Plan)) (w : World) :
    ∃ trace, ProcessedRounds r collection fatal w rounds trace ∧
      (StateT.run (processRounds r collection fatal rounds) w).1 =
        (trace.map fun x => (x.run r collection).1.1, firstFatal r collection fatal trace) := by
  induction rounds generalizing fatal w with
  | nil => exact ⟨[], .nil fatal w, rfl⟩
  | cons round rest ih =>
    obtain ⟨now, chained, plans, aborts, ran⟩ := processRound_chained r collection
      (fatal.isSome || (r.startsTogether && w.cancelled)) round w
    obtain ⟨later, traced, result⟩ :=
      ih (firstFatal r collection fatal now) (chainEnd r collection w now)
    refine ⟨now ++ later, .cons chained plans aborts traced, ?_⟩
    rw [processRounds, run_bind, run_get]
    dsimp only
    rw [run_bind, ran]
    dsimp only
    -- the failure this round carries on is the first one met so far
    rw [firstFatal_eq_foldl, run_bind]
    generalize StateT.run (processRounds r collection (firstFatal r collection fatal now) rest)
      (chainEnd r collection w now) = out at result
    obtain ⟨⟨reports, fatal'⟩, w'⟩ := out
    cases result
    simp only [List.map_append, List.map_map, firstFatal_append]
    rfl

/-! What aborts a run. -/

theorem firstFatal_isSome (r : Runner) (collection : Collection) (fatal : Option SyncError)
    (trace : List Processing) :
    (firstFatal r collection fatal trace).isSome ↔
      fatal.isSome ∨ ∃ x ∈ trace, ((x.run r collection).1.2).isSome := by
  induction trace generalizing fatal with
  | nil => simp [firstFatal]
  | cons x rest ih =>
    change (firstFatal r collection (fatal <|> (x.run r collection).1.2) rest).isSome ↔ _
    rw [ih]
    cases fatal <;> simp

theorem firstFatal_some (r : Runner) (collection : Collection) {fatal : Option SyncError}
    {trace : List Processing} {e : SyncError} (met : firstFatal r collection fatal trace = some e) :
    fatal = some e ∨ ∃ x ∈ trace, (x.run r collection).1.2 = some e := by
  induction trace generalizing fatal with
  | nil => exact .inl met
  | cons x rest ih =>
    rcases ih met with carried | later
    · cases fatal with
      | some e' => exact .inl carried
      | none => exact .inr ⟨x, List.mem_cons_self .., carried⟩
    · obtain ⟨y, mem, found⟩ := later
      exact .inr ⟨y, List.mem_cons_of_mem _ mem, found⟩

theorem loadConflicts_error {s : Store} {remoteId : String} {e : Error}
    (unread : SyncState.loadConflicts s remoteId = .error e) : ∃ t, e = .json t := by
  unfold SyncState.loadConflicts at unread
  split at unread
  · cases unread
  · next raw _ =>
    cases decoded : ConflictSet.decode raw with
    | error d =>
      rw [decoded] at unread
      cases unread
      exact ⟨_, rfl⟩
    | ok c =>
      rw [decoded] at unread
      cases unread

theorem save_error {s : Store} {e : Entity} {err : Error} (refused : s.save e = .error err) :
    err = localUnavailable := by
  unfold Store.save at refused
  split at refused
  · cases refused
    rfl
  · cases refused
  · cases refused

theorem afterCommit_fst (r : Runner) (collection : Collection) (p : Plan)
    (result : Except Error Unit) (w : World) :
    (StateT.run (afterCommit r collection p result) w).1 = result := by
  cases result <;> rfl

/-- A push ends with a refusal from the tracker only when it sent a `PATCH` of its fields and the
tracker answered it with that refusal. -/
theorem push_remote {r : Runner} {p : Plan} {itemPath : String} {toRemote : List FieldChange}
    {w : World} {f : Remote.Failure}
    (refused : (StateT.run (push r p itemPath toRemote) w).1 = .error (.remote f)) :
    toRemote ≠ [] ∧
      (StateT.run (r.send .patch itemPath (fieldParams (pushedFields toRemote))) w).1 = .error f := by
  unfold push at refused
  by_cases empty : toRemote.isEmpty
  · rw [if_pos empty] at refused
    cases refused
  · rw [if_neg empty, run_bind] at refused
    refine ⟨fun none => empty (List.isEmpty_iff.mpr none), ?_⟩
    generalize StateT.run (r.send .patch itemPath (fieldParams (pushedFields toRemote))) w = out
      at refused ⊢
    obtain ⟨answer, w₁⟩ := out
    cases answer with
    | error f' =>
      cases refused
      rfl
    | ok response =>
      -- an answer the tracker gave is kept or found ignored, neither a refusal
      dsimp only at refused
      rw [run_bind] at refused
      split at refused
      · cases refused
      · rw [run_bind] at refused
        cases refused

/-- Carrying out a plan ends with a refusal from the tracker only when its push was refused:
the stored conflicts, the local save and the commit fail otherwise. -/
theorem apply_remote {r : Runner} {collection : Collection} {q : Plan} {w : World}
    {f : Remote.Failure} (refused : (StateT.run (apply r collection q) w).1 = .error (.remote f)) :
    (StateT.run (push r q (q.itemPath collection) q.toRemote) w).1 = .error (.remote f) := by
  cases detected : q.detection with
  | none =>
    simp only [apply, detected] at refused
    rw [run_bind] at refused
    cases refused
  | some d =>
    have toRemote : d.changes.filter (·.direction == .toRemote) = q.toRemote := by
      simp [Plan.toRemote, Plan.changes, detected]
    have toLocal : d.changes.filter (·.direction == .toLocal) = q.toLocal := by
      simp [Plan.toLocal, Plan.changes, detected]
    have path : Remote.trimTrailingSlashes collection.endpoint ++ "/" ++ q.remoteId =
        q.itemPath collection := rfl
    simp only [apply, detected, toRemote, toLocal, path] at refused
    rw [run_bind, run_get, run_bind, run_get] at refused
    dsimp only at refused
    split at refused
    · next e unread =>
      obtain ⟨t, rfl⟩ := loadConflicts_error unread
      cases refused
    split at refused
    · rw [run_bind] at refused
      cases refused
    rw [run_bind] at refused
    generalize StateT.run (push r q (q.itemPath collection) q.toRemote) w = out at refused ⊢
    obtain ⟨pushed, w₁⟩ := out
    cases pushed with
    | error e =>
      -- the push's own failure is what carrying out the plan ends with
      cases refused
      rfl
    | ok after =>
      dsimp only at refused
      split at refused
      · rw [run_bind, saveLocal_run] at refused
        cases saved : w₁.store.save (q.updated w₁.wallClock) with
        | error e =>
          rw [saved] at refused
          dsimp only at refused
          rw [run_bind, save_error saved] at refused
          cases refused
        | ok s' =>
          rw [saved] at refused
          dsimp only at refused
          rw [commit_run] at refused
          change (StateT.run (afterCommit r collection q _) _).1 = _ at refused
          rw [afterCommit_fst] at refused
          generalize (Links.commitWith _ _ _ _ _).2 = committed at refused
          cases committed <;> cases refused
      · rw [commit_run] at refused
        change (StateT.run (afterCommit r collection q _) _).1 = _ at refused
        rw [afterCommit_fst] at refused
        generalize (Links.commitWith _ _ _ _ _).2 = committed at refused
        cases committed <;> cases refused

/-- A refused push is one the tracker was sent: the checked plan had fields to push, and the
`PATCH` of them was answered with the refusal. -/
theorem Processing.PushRefused.sent {r : Runner} {collection : Collection} {x : Processing}
    {f : Remote.Failure} (refused : x.PushRefused r collection f) :
    ∃ q, (StateT.run (refresh r collection.kind x.plan) x.start).1 = .ok (some q) ∧
      q.toRemote ≠ [] ∧
      (StateT.run (r.send .patch (q.itemPath collection) (fieldParams (pushedFields q.toRemote)))
        (StateT.run (refresh r collection.kind x.plan) x.start).2).1 = .error f := by
  obtain ⟨-, q, rechecked, applied⟩ := refused
  exact ⟨q, rechecked, push_remote (apply_remote applied)⟩

/-- An entity aborts the run exactly when the tracker refused its push for its credentials; the
run then fails with an authentication error carrying the tracker's message. -/
theorem process_fatal (r : Runner) (collection : Collection) (x : Processing) (e : SyncError) :
    (x.run r collection).1.2 = some e ↔
      ∃ f : Remote.Failure, f.isFatal = true ∧ e = .authentication f.message ∧
        x.PushRefused r collection f := by
  obtain ⟨p, abort, w⟩ := x
  unfold Processing.run Processing.PushRefused process
  dsimp only
  rw [run_bind, run_get]
  dsimp only
  split
  · next stopped =>
    -- a cancelled entity aborts nothing
    refine ⟨fun found => (by cases found), ?_⟩
    rintro ⟨f, -, -, going, -⟩
    rw [stopped] at going
    cases going
  · next going =>
    rw [run_bind]
    generalize StateT.run (refresh r collection.kind p) w = out
    obtain ⟨rechecked, w₁⟩ := out
    rcases rechecked with rep | _ | q
    · refine ⟨fun found => (by cases found), ?_⟩
      rintro ⟨f, -, -, -, q, found, -⟩
      cases found
    · refine ⟨fun found => (by cases found), ?_⟩
      rintro ⟨f, -, -, -, q, found, -⟩
      cases found
    · dsimp only
      rw [run_bind]
      generalize applied : StateT.run (apply r collection q) w₁ = out
      obtain ⟨result, w₂⟩ := out
      cases result with
      | ok u =>
        -- a committed entity emits its events and aborts nothing
        dsimp only
        refine ⟨fun found => ?_, ?_⟩
        · split at found <;> simp only [run_bind] at found <;> cases found
        · rintro ⟨f, -, -, -, q', found, refused⟩
          cases found
          rw [applied] at refused
          cases refused
      | error err =>
        rw [run_bind]
        dsimp only
        split
        · next f =>
          split
          · next fatal =>
            constructor
            · rintro ⟨⟩
              exact ⟨f, fatal, rfl, Bool.eq_false_iff.mpr going, q, rfl, by rw [applied]⟩
            · rintro ⟨f', -, rfl, -, q', found, refused⟩
              cases found
              rw [applied] at refused
              cases refused
              rfl
          · next notFatal =>
            refine ⟨fun found => (by cases found), ?_⟩
            rintro ⟨f', fatal, -, -, q', found, refused⟩
            cases found
            rw [applied] at refused
            cases refused
            exact absurd fatal notFatal
        · next notRemote =>
          refine ⟨fun found => (by cases found), ?_⟩
          rintro ⟨f', -, -, -, q', found, refused⟩
          cases found
          rw [applied] at refused
          cases refused
          exact (notRemote f' rfl).elim

/-! The phases of a run. -/

/-- A run's listing: every page of the collection, read once the run has entered its fetch
phase. -/
def listing (r : Runner) (collection : Collection) : SyncM (Except Remote.Failure (List Json)) := do
  setPhase r .init
  setPhase r .fetchRemote
  Remote.fetchAll r.send emit collection.endpoint collection.params r.perPage r.maxPages

def normalizePhase (r : Runner) (items : List Json) : SyncM (List Snapshot × List EntityReport) := do
  setPhase r .normalize
  normalizeItems items

/-- The remote snapshots planned in the compare phase, the run then entering its apply phase. -/
def planPhase (r : Runner) (collection : Collection) (targeted : Bool) (remotes : List Snapshot) :
    SyncM (List Plan × List EntityReport × Nat) := do
  setPhase r .compare
  let planned ← planAll r collection.kind targeted remotes
  setPhase r .apply
  return planned

/-- The plans carried out: reported as they stand in a dry run, else processed round by round. -/
def carryOut (r : Runner) (collection : Collection) (plans : List Plan) :
    SyncM (List EntityReport × Option SyncError) :=
  if r.options.dryRun then pure (plans.map Plan.report, none)
  else processRounds r collection none (chunks r.roundSize plans)

theorem emit_phase (w : World) (e : Event) : (w.emit e).phase = w.phase := by
  unfold World.emit
  dsimp only
  split <;> rfl

/-- Entering a phase other than apply leaves the run in it; the other writer acts only when the
apply phase begins. -/
theorem setPhase_phase (r : Runner) {p : Phase} (notApply : p ≠ .apply) (w : World) :
    (StateT.run (setPhase r p) w).2.phase = p := by
  unfold setPhase
  rw [run_bind, run_bind]
  split
  · exact absurd rfl notApply
  · exact emit_phase _ _

/-- How a run ends once its plans are carried out: with the first failure that aborted it, in
phase `failed`, or with a report of every failed and processed entity sorted by remote id, in
phase `done`. -/
theorem execute_outcome (r : Runner) (collection : Collection) (remotes : List Snapshot)
    (failed : List EntityReport) (targeted : Bool) (w : World) :
    let planned := StateT.run (planPhase r collection targeted remotes) w
    let done := StateT.run (carryOut r collection planned.1.1) planned.2
    let out := StateT.run (execute r collection remotes failed targeted) w
    (∀ e, done.1.2 = some e → out.1 = .error (.sync e) ∧ out.2.phase = .failed) ∧
      (done.1.2 = none → ∃ report : SyncReport, out.1 = .ok report ∧
        report.entities = sortByRemoteId (failed ++ planned.1.2.1 ++ done.1.1) ∧
        report.skippedUnlinked = planned.1.2.2 ∧ out.2.phase = .done) := by
  dsimp only
  unfold execute planPhase carryOut
  simp only [run_bind, run_pure]
  generalize StateT.run (planAll r collection.kind targeted remotes)
    (StateT.run (setPhase r .compare) w).2 = planRun
  obtain ⟨⟨plans, planFailed, skipped⟩, w₁⟩ := planRun
  by_cases dry : r.options.dryRun = true
  · -- a dry run reports every plan as it stands and aborts nothing
    simp only [if_pos dry, run_bind, run_pure]
    constructor
    · intro e' no
      cases no
    · intro _
      exact ⟨_, rfl, rfl, rfl, setPhase_phase r (by decide) _⟩
  simp only [if_neg dry, run_bind]
  generalize StateT.run (processRounds r collection none (chunks r.roundSize plans))
    (StateT.run (setPhase r .apply) w₁).2 = doneRun
  obtain ⟨⟨reports, fatal⟩, w₂⟩ := doneRun
  cases fatal with
  | some e =>
    simp only [run_bind, run_pure]
    constructor
    · intro e' same
      cases same
      exact ⟨rfl, setPhase_phase r (by decide) _⟩
    · intro no
      cases no
  | none =>
    simp only [run_bind, run_pure]
    constructor
    · intro e' no
      cases no
    · intro _
      exact ⟨_, rfl, rfl, rfl, setPhase_phase r (by decide) _⟩


/-! Every item accounted for. -/

theorem flatten_chunks {α : Type} (n : Nat) (xs : List α) : (chunks n xs).flatten = xs := by
  -- a round is the next `n` plans, and the rounds after it cut the rest
  fun_induction chunks n xs with
  | case1 xs zero => exact List.flatten_singleton
  | case2 => rfl
  | case3 x rest nonzero ih => rw [List.flatten_cons, ih, List.take_append_drop]

theorem ProcessedRounds.plans {r : Runner} {collection : Collection} {fatal : Option SyncError}
    {w : World} {rounds : List (List Plan)} {trace : List Processing}
    (traced : ProcessedRounds r collection fatal w rounds trace) :
    trace.map (·.plan) = rounds.flatten := by
  induction traced with
  | nil => rfl
  | cons _ round _ _ ih => rw [List.map_append, round, ih, List.flatten_cons]

theorem sortByRemoteId_sorted (reports : List EntityReport) :
    (sortByRemoteId reports).Pairwise fun a b => a.remoteId ≤ b.remoteId := by
  have sorted := @List.pairwise_mergeSort _ (fun a b : EntityReport => decide (a.remoteId ≤ b.remoteId))
    (fun a b c ab bc => decide_eq_true (String.le_trans (of_decide_eq_true ab) (of_decide_eq_true bc)))
    (fun a b => Bool.or_eq_true_iff.mpr ((String.le_total _ _).imp decide_eq_true decide_eq_true))
    reports
  exact sorted.imp of_decide_eq_true

theorem sortByRemoteId_length (reports : List EntityReport) :
    (sortByRemoteId reports).length = reports.length :=
  List.length_mergeSort _

/-- Carrying out the plans: in a dry run every plan is reported and nothing aborts; otherwise
the entities are processed round by round, one report each, and the run is aborted by the first
failure met. -/
theorem carryOut_traced (r : Runner) (collection : Collection) (plans : List Plan) (w : World) :
    ∃ trace : List Processing,
      (r.options.dryRun = false → ProcessedRounds r collection none w (chunks r.roundSize plans) trace) ∧
      (r.options.dryRun = true → trace = []) ∧
      (StateT.run (carryOut r collection plans) w).1 =
        (if r.options.dryRun then plans.map Plan.report
          else trace.map fun x => (x.run r collection).1.1, firstFatal r collection none trace) := by
  unfold carryOut
  cases dry : r.options.dryRun with
  | true => exact ⟨[], (fun no => nomatch no), fun _ => rfl, rfl⟩
  | false =>
    obtain ⟨trace, traced, ran⟩ := processRounds_traced r collection none (chunks r.roundSize plans) w
    exact ⟨trace, fun _ => traced, (fun no => nomatch no), ran⟩

theorem carryOut_length (r : Runner) (collection : Collection) (plans : List Plan) :
    Yields (carryOut r collection plans) fun done => done.1.length = plans.length := by
  intro w
  obtain ⟨trace, traced, -, ran⟩ := carryOut_traced r collection plans w
  rw [ran]
  cases dry : r.options.dryRun with
  | true => exact List.length_map _
  | false =>
    -- one report for each entity processed, and one entity for each plan
    have plansOf := (traced dry).plans
    rw [flatten_chunks] at plansOf
    dsimp only
    rw [if_neg (by simp), List.length_map, ← plansOf, List.length_map]

theorem carryOut_fatal (r : Runner) (collection : Collection) (plans : List Plan) :
    Yields (carryOut r collection plans) fun done =>
      ∀ e, done.2 = some e → ∃ m, e = .authentication m := by
  intro w e met
  obtain ⟨trace, -, -, ran⟩ := carryOut_traced r collection plans w
  rw [ran] at met
  rcases firstFatal_some r collection met with carried | ⟨x, -, aborted⟩
  · cases carried
  · obtain ⟨f, -, rfl, -⟩ := (process_fatal r collection x e).mp aborted
    exact ⟨_, rfl⟩

/-- The processed entities abort the run exactly when one of them met the tracker's refusal of
its push for its credentials. -/
theorem firstFatal_refused (r : Runner) (collection : Collection) (trace : List Processing) :
    (firstFatal r collection none trace).isSome ↔
      ∃ x ∈ trace, ∃ f : Remote.Failure, f.isFatal = true ∧ x.PushRefused r collection f := by
  rw [firstFatal_isSome]
  simp only [Option.isSome_none, Bool.false_eq_true, false_or]
  constructor
  · rintro ⟨x, mem, aborted⟩
    obtain ⟨e, met⟩ := Option.isSome_iff_exists.mp aborted
    obtain ⟨f, fatal, -, refused⟩ := (process_fatal r collection x e).mp met
    exact ⟨x, mem, f, fatal, refused⟩
  · rintro ⟨x, mem, f, fatal, refused⟩
    exact ⟨x, mem, Option.isSome_iff_exists.mpr ⟨_, (process_fatal r collection x _).mpr
      ⟨f, fatal, rfl, refused⟩⟩⟩

theorem planPhase_length (r : Runner) (collection : Collection) (targeted : Bool)
    (remotes : List Snapshot) :
    Yields (planPhase r collection targeted remotes) fun planned =>
      planned.1.length + planned.2.1.length + planned.2.2 = remotes.length :=
  Yields.seq fun _ => Yields.bind (planAll_length r collection.kind targeted remotes)
    fun _ counted => Yields.seq fun _ => Yields.pure counted

theorem normalizePhase_length (r : Runner) (items : List Json) :
    Yields (normalizePhase r items) fun normalized =>
      normalized.1.length + normalized.2.length = items.length :=
  Yields.seq fun _ => normalizeItems_length items

/-- A report of a run accounts for every remote snapshot it planned and every entity that failed
before: each is reported or skipped unlinked, once, and the reports are sorted by remote id. -/
theorem execute_counts (r : Runner) (collection : Collection) (remotes : List Snapshot)
    (failed : List EntityReport) (targeted : Bool) :
    Yields (execute r collection remotes failed targeted) fun out => ∀ report, out = .ok report →
      report.entities.length + report.skippedUnlinked = failed.length + remotes.length ∧
        report.entities.Pairwise fun a b => a.remoteId ≤ b.remoteId := by
  intro w report reported
  obtain ⟨aborted, finished⟩ := execute_outcome r collection remotes failed targeted w
  cases fatal : (StateT.run (carryOut r collection
      (StateT.run (planPhase r collection targeted remotes) w).1.1)
      (StateT.run (planPhase r collection targeted remotes) w).2).1.2 with
  | some e =>
    rw [(aborted e fatal).1] at reported
    cases reported
  | none =>
    obtain ⟨report', reported', entities, skipped, -⟩ := finished fatal
    rw [reported'] at reported
    cases reported
    have planned := planPhase_length r collection targeted remotes w
    have done := carryOut_length r collection (StateT.run (planPhase r collection targeted remotes) w).1.1
      (StateT.run (planPhase r collection targeted remotes) w).2
    refine ⟨?_, entities ▸ sortByRemoteId_sorted _⟩
    rw [entities, skipped, sortByRemoteId_length, List.length_append, List.length_append, done]
    omega

theorem execute_fails_iff (r : Runner) (collection : Collection) (remotes : List Snapshot)
    (failed : List EntityReport) (targeted : Bool) (w : World) :
    (∃ e, (StateT.run (execute r collection remotes failed targeted) w).1 = .error e) ↔
      ((StateT.run (carryOut r collection (StateT.run (planPhase r collection targeted remotes) w).1.1)
        (StateT.run (planPhase r collection targeted remotes) w).2).1.2).isSome := by
  obtain ⟨aborted, finished⟩ := execute_outcome r collection remotes failed targeted w
  cases fatal : (StateT.run (carryOut r collection
      (StateT.run (planPhase r collection targeted remotes) w).1.1)
      (StateT.run (planPhase r collection targeted remotes) w).2).1.2 with
  | some e => exact ⟨fun _ => rfl, fun _ => ⟨_, (aborted e fatal).1⟩⟩
  | none =>
    obtain ⟨report, reported, -⟩ := finished fatal
    refine ⟨fun ⟨e, failedWith⟩ => ?_, fun no => nomatch no⟩
    rw [reported] at failedWith
    cases failedWith

theorem execute_error (r : Runner) (collection : Collection) (remotes : List Snapshot)
    (failed : List EntityReport) (targeted : Bool) (w : World) {e : Error}
    (failedWith : (StateT.run (execute r collection remotes failed targeted) w).1 = .error e) :
    (∃ m, e = .sync (.authentication m)) ∧
      (StateT.run (execute r collection remotes failed targeted) w).2.phase = .failed := by
  obtain ⟨aborted, finished⟩ := execute_outcome r collection remotes failed targeted w
  cases fatal : (StateT.run (carryOut r collection
      (StateT.run (planPhase r collection targeted remotes) w).1.1)
      (StateT.run (planPhase r collection targeted remotes) w).2).1.2 with
  | some e' =>
    obtain ⟨same, phase⟩ := aborted e' fatal
    rw [same] at failedWith
    cases failedWith
    obtain ⟨m, rfl⟩ := carryOut_fatal r collection _ _ e' fatal
    exact ⟨⟨m, rfl⟩, phase⟩
  | none =>
    obtain ⟨report, reported, -⟩ := finished fatal
    rw [reported] at failedWith
    cases failedWith

theorem execute_report_phase (r : Runner) (collection : Collection) (remotes : List Snapshot)
    (failed : List EntityReport) (targeted : Bool) (w : World) {report : SyncReport}
    (reported : (StateT.run (execute r collection remotes failed targeted) w).1 = .ok report) :
    (StateT.run (execute r collection remotes failed targeted) w).2.phase = .done := by
  obtain ⟨aborted, finished⟩ := execute_outcome r collection remotes failed targeted w
  cases fatal : (StateT.run (carryOut r collection
      (StateT.run (planPhase r collection targeted remotes) w).1.1)
      (StateT.run (planPhase r collection targeted remotes) w).2).1.2 with
  | some e =>
    rw [(aborted e fatal).1] at reported
    cases reported
  | none =>
    obtain ⟨-, -, -, -, phase⟩ := finished fatal
    exact phase

theorem run_refused (r : Runner) (collection : Collection) (w : World) {f : Remote.Failure}
    (refused : (StateT.run (listing r collection) w).1 = .error f) :
    StateT.run (SyncM.run r collection) w =
      (.error (.sync (if f.isFatal then .authentication f.message
          else .listing collection.endpoint f)),
        (StateT.run (setPhase r .failed) (StateT.run (listing r collection) w).2).2) := by
  unfold SyncM.run listing at *
  simp only [run_bind] at refused ⊢
  generalize StateT.run (Remote.fetchAll r.send emit collection.endpoint collection.params r.perPage
    r.maxPages) (StateT.run (setPhase r .fetchRemote) (StateT.run (setPhase r .init) w).2).2 = listed
    at refused ⊢
  obtain ⟨answer, w₁⟩ := listed
  cases refused
  simp only [run_bind, run_pure]

theorem run_listed (r : Runner) (collection : Collection) (w : World) {items : List Json}
    (listed : (StateT.run (listing r collection) w).1 = .ok items) :
    StateT.run (SyncM.run r collection) w =
      StateT.run (execute r collection
          (StateT.run (normalizePhase r items) (StateT.run (listing r collection) w).2).1.1
          (StateT.run (normalizePhase r items) (StateT.run (listing r collection) w).2).1.2 false)
        (StateT.run (normalizePhase r items) (StateT.run (listing r collection) w).2).2 := by
  unfold SyncM.run listing at *
  simp only [run_bind] at listed ⊢
  generalize StateT.run (Remote.fetchAll r.send emit collection.endpoint collection.params r.perPage
    r.maxPages) (StateT.run (setPhase r .fetchRemote) (StateT.run (setPhase r .init) w).2).2 = out
    at listed ⊢
  obtain ⟨answer, w₁⟩ := out
  cases listed
  simp only [normalizePhase, run_bind]

theorem targetsOf_length {s : Store} {localIds targets : List String}
    (found : targetsOf s localIds = .ok targets) : targets.length = localIds.length := by
  -- ids are resolved one by one, one target each
  have resolvedEach : ∀ (resolve : String → Except LinkError String) (ids targets : List String),
      ids.mapM resolve = .ok targets → targets.length = ids.length := by
    intro resolve ids
    induction ids with
    | nil =>
      intro targets mapped
      cases mapped
      rfl
    | cons id rest ih =>
      intro targets mapped
      rw [List.mapM_cons] at mapped
      cases head : resolve id with
      | error e =>
        rw [head] at mapped
        cases mapped
      | ok target =>
        cases tail : rest.mapM resolve with
        | error e =>
          rw [head, tail] at mapped
          cases mapped
        | ok targets' =>
          rw [head, tail] at mapped
          cases mapped
          rw [List.length_cons, List.length_cons, ih targets' tail]
  exact resolvedEach _ localIds targets found


/-- Gathering the targets of a targeted run gives one snapshot or one failed entity for each. -/
theorem gather_length (r : Runner) (collection : Collection) (targets : List String)
    (snaps : List Snapshot) (failed : List EntityReport) :
    Yields (gather r collection targets snaps failed) fun out => ∀ gathered, out = .ok gathered →
      gathered.1.length + gathered.2.length = targets.length + snaps.length + failed.length := by
  induction targets generalizing snaps failed with
  | nil =>
    refine Yields.pure fun gathered same => ?_
    cases same
    simp only [List.length_nil, Nat.zero_add]
  | cons remoteId rest ih =>
    -- the first target adds one snapshot or one failed entity, the rest are gathered after it
    have next : ∀ snaps' failed', snaps'.length + failed'.length = snaps.length + failed.length + 1 →
        Yields (gather r collection rest snaps' failed') fun out => ∀ gathered, out = .ok gathered →
          gathered.1.length + gathered.2.length =
            (remoteId :: rest).length + snaps.length + failed.length := by
      intro snaps' failed' grown
      refine (ih snaps' failed').imp fun out counted gathered same => ?_
      rw [counted gathered same, List.length_cons]
      omega
    have oneMore : ∀ {γ : Type} (xs : List γ) (x : γ), (xs ++ [x]).length = xs.length + 1 :=
      fun xs x => by rw [List.length_append, List.length_singleton]
    unfold gather
    refine Yields.seq fun clock => Yields.seq fun cached => ?_
    rcases cached with e | _ | s
    · exact Yields.pure fun _ no => by cases no
    · refine Yields.seq fun fetched => ?_
      rcases fetched with f | _ | item <;> dsimp only
      · -- refused credentials end the run, any other refusal fails the target
        split
        · exact Yields.seq fun _ => Yields.pure fun _ no => by cases no
        · exact Yields.seq fun _ => next _ _ (by rw [oneMore]; omega)
      · exact Yields.seq fun _ => next _ _ (by rw [oneMore]; omega)
      · refine Yields.seq fun normalized => ?_
        rcases normalized with rep | s <;> dsimp only
        · exact next _ _ (by rw [oneMore]; omega)
        · exact next _ _ (by rw [oneMore]; omega)
    · exact next _ _ (by rw [oneMore]; omega)

/-- A targeted run that reports accounts for every id it was given: each is reported or skipped
unlinked, once. -/
theorem syncEntities_counts (r : Runner) (collection : Collection) (localIds : List String) :
    Yields (syncEntities r collection localIds) fun out => ∀ report, out = .ok report →
      report.entities.length + report.skippedUnlinked = localIds.length := by
  unfold syncEntities
  refine Yields.seq fun _ => Yields.seq fun w => ?_
  split
  · exact Yields.pure fun _ no => nomatch no
  · next targets found =>
    refine Yields.seq fun _ => Yields.bind (gather_length r collection targets [] []) fun out gathered => ?_
    rcases out with e | ⟨remotes, failed⟩
    · exact Yields.pure fun _ no => nomatch no
    · refine Yields.seq fun _ => (execute_counts r collection remotes failed true).imp ?_
      intro out counts report reported
      have each := gathered (remotes, failed) rfl
      rw [(counts report reported).1, ← targetsOf_length found]
      simp only [List.length_nil, Nat.add_zero] at each
      omega


/-- Every listed item is accounted for, and only a refused listing or a push refused for its
credentials makes a run fail. -/
theorem run_accounts_for_every_item (r : Runner) (collection : Collection) (w : World) :
    (∀ f, (StateT.run (listing r collection) w).1 = .error f →
      (StateT.run (SyncM.run r collection) w).1 =
          .error (.sync (if f.isFatal then .authentication f.message
            else .listing collection.endpoint f)) ∧
        (StateT.run (SyncM.run r collection) w).2.phase = .failed) ∧
    (∀ items, (StateT.run (listing r collection) w).1 = .ok items →
      ∃ trace : List Processing,
        (r.options.dryRun = false →
          ProcessedRounds r collection none
            (StateT.run (planPhase r collection false
              (StateT.run (normalizePhase r items) (StateT.run (listing r collection) w).2).1.1)
              (StateT.run (normalizePhase r items) (StateT.run (listing r collection) w).2).2).2
            (chunks r.roundSize (StateT.run (planPhase r collection false
              (StateT.run (normalizePhase r items) (StateT.run (listing r collection) w).2).1.1)
              (StateT.run (normalizePhase r items) (StateT.run (listing r collection) w).2).2).1.1)
            trace) ∧
        (r.options.dryRun = true → trace = []) ∧
        ((∃ e, (StateT.run (SyncM.run r collection) w).1 = .error e) ↔
          ∃ x ∈ trace, ∃ f : Remote.Failure, f.isFatal = true ∧ x.PushRefused r collection f) ∧
        (∀ e, (StateT.run (SyncM.run r collection) w).1 = .error e →
          (∃ m, e = .sync (.authentication m)) ∧
            (StateT.run (SyncM.run r collection) w).2.phase = .failed) ∧
        ∀ report, (StateT.run (SyncM.run r collection) w).1 = .ok report →
          report.entities.length + report.skippedUnlinked = items.length ∧
            report.entities.Pairwise (fun a b => a.remoteId ≤ b.remoteId) ∧
            (StateT.run (SyncM.run r collection) w).2.phase = .done) ∧
    ∀ localIds report, (StateT.run (syncEntities r collection localIds) w).1 = .ok report →
      report.entities.length + report.skippedUnlinked = localIds.length := by
  refine ⟨fun f refused => ?_, fun items listed => ?_,
    fun localIds => syncEntities_counts r collection localIds w⟩
  · rw [run_refused r collection w refused]
    exact ⟨rfl, setPhase_phase r (by decide) _⟩
  · rw [run_listed r collection w listed]
    have normalizedAll := normalizePhase_length r items (StateT.run (listing r collection) w).2
    generalize StateT.run (normalizePhase r items) (StateT.run (listing r collection) w).2 = normalized
      at normalizedAll ⊢
    obtain ⟨⟨remotes, failed⟩, w₁⟩ := normalized
    dsimp only at normalizedAll ⊢
    obtain ⟨trace, traced, dryEmpty, done⟩ := carryOut_traced r collection
      (StateT.run (planPhase r collection false remotes) w₁).1.1
      (StateT.run (planPhase r collection false remotes) w₁).2
    refine ⟨trace, traced, dryEmpty, ?_, fun e failedWith => execute_error r collection remotes
      failed false w₁ failedWith, fun report reported => ?_⟩
    · -- the run fails exactly when the first failure met is some entity's
      rw [execute_fails_iff, done, ← firstFatal_refused]
    · obtain ⟨counts, sorted⟩ := execute_counts r collection remotes failed false w₁ report reported
      refine ⟨?_, sorted, execute_report_phase r collection remotes failed false w₁ reported⟩
      rw [counts]
      omega

end SyncM

end TrackerSync
