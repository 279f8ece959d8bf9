import TrackerSync.Proofs.Sync.Failure
import TrackerSync.Proofs.Detection.Table

/-!
No side's edit is overwritten by the entity that carries it.
-/

namespace TrackerSync

/-- The fields a comparison must leave as they are on the local side: those edited locally since
the base; with no base, those holding a value that the remote side would empty, and under the
local-first policy every field holding a value. -/
def KeepsLocal (policy : SeedPolicy) (base : Option Snapshot) (loc rem : Snapshot) (f : Field) :
    Prop :=
  match base with
  | some b => loc.get f ≠ b.get f
  | none => (loc.get f).isEmpty = false ∧ ((rem.get f).isEmpty = true ∨ policy = .fillEmptyLocal)

/-- The fields a comparison must leave as they are on the remote side: those edited on the tracker
since the base; with no base, those holding a value that the local side would empty, and under
the remote-first policy every field holding a value. -/
def KeepsRemote (policy : SeedPolicy) (base : Option Snapshot) (loc rem : Snapshot) (f : Field) :
    Prop :=
  match base with
  | some b => rem.get f ≠ b.get f
  | none => (rem.get f).isEmpty = false ∧ ((loc.get f).isEmpty = true ∨ policy = .preferRemote)

/-- A change of a comparison is the change of one field's seed decision or verdict. -/
theorem mem_changes {policy : SeedPolicy} {base : Option Snapshot} {loc rem : Snapshot}
    {c : FieldChange} (mem : c ∈ (detect policy base loc rem).changes) :
    match base with
    | none => (seedAt policy loc rem c.field).change? = some c
    | some b => (verdictAt b loc rem c.field).change? = some c := by
  cases base with
  | none =>
    rw [detect_none, Detection.changes, List.mem_filterMap] at mem
    obtain ⟨sf, listed, made⟩ := mem
    obtain ⟨g, -, rfl⟩ := List.mem_map.mp listed
    rw [SeedField.change?_field _ c made]
    exact made
  | some b =>
    rw [detect_some, Detection.changes, List.mem_filterMap] at mem
    obtain ⟨v, listed, made⟩ := mem
    obtain ⟨g, -, rfl⟩ := List.mem_map.mp listed
    rw [FieldVerdict.change?_field _ c made]
    exact made

theorem detect_keeps_local {policy : SeedPolicy} {base : Option Snapshot} {loc rem : Snapshot}
    {f : Field} (keeps : KeepsLocal policy base loc rem f) {c : FieldChange}
    (mem : c ∈ (detect policy base loc rem).changes) (toLocal : c.direction = .toLocal) :
    c.field ≠ f := by
  rintro rfl
  have made := mem_changes mem
  cases base with
  | none =>
    obtain ⟨filled, emptied⟩ := keeps
    simp only [seedAt, SeedField.change?, Option.map_eq_some_iff] at made
    obtain ⟨d, seeded, made⟩ := made
    have toward : d = .toLocal := (congrArg FieldChange.direction made).trans toLocal
    subst toward
    rcases seedDirection_toLocal seeded with empty | ⟨held, prefer⟩
    · rw [filled] at empty
      cases empty
    · rcases emptied with empty | fill
      · rw [held] at empty
        cases empty
      · rw [fill] at prefer
        cases prefer
  | some b =>
    simp only [verdictAt, FieldVerdict.change?] at made
    split at made
    · have toward := (congrArg FieldChange.direction (Option.some.inj made)).trans toLocal
      cases toward
    · next remoteOnly =>
      -- a remote-only verdict needs the local value to be the base's
      rw [classify_eq] at remoteOnly
      by_cases same : b.get c.field = loc.get c.field
      · exact keeps same.symm
      · rw [if_neg same] at remoteOnly
        split at remoteOnly <;> (try split at remoteOnly) <;> cases remoteOnly
    · cases made

theorem detect_keeps_remote {policy : SeedPolicy} {base : Option Snapshot} {loc rem : Snapshot}
    {f : Field} (keeps : KeepsRemote policy base loc rem f) {c : FieldChange}
    (mem : c ∈ (detect policy base loc rem).changes) (toRemote : c.direction = .toRemote) :
    c.field ≠ f := by
  rintro rfl
  have made := mem_changes mem
  cases base with
  | none =>
    obtain ⟨filled, emptied⟩ := keeps
    simp only [seedAt, SeedField.change?, Option.map_eq_some_iff] at made
    obtain ⟨d, seeded, made⟩ := made
    have toward : d = .toRemote := (congrArg FieldChange.direction made).trans toRemote
    subst toward
    rcases seedDirection_toRemote seeded with empty | ⟨held, fill⟩
    · rw [filled] at empty
      cases empty
    · rcases emptied with empty | prefer
      · rw [held] at empty
        cases empty
      · rw [fill] at prefer
        cases prefer
  | some b =>
    simp only [verdictAt, FieldVerdict.change?] at made
    split at made
    · next localOnly =>
      -- a local-only verdict needs the remote value to be the base's
      rw [classify_eq] at localOnly
      by_cases same : b.get c.field = loc.get c.field
      · rw [if_pos same] at localOnly
        split at localOnly <;> cases localOnly
      · rw [if_neg same] at localOnly
        by_cases kept : b.get c.field = rem.get c.field
        · exact keeps kept.symm
        · rw [if_neg kept] at localOnly
          split at localOnly <;> cases localOnly
    · have toward := (congrArg FieldChange.direction (Option.some.inj made)).trans toRemote
      cases toward
    · cases made

def Entity.stored (e : Entity) : Field → FieldValue
  | .title => .text (some e.title)
  | .status => .text (some e.status)
  | .assignee => .text e.assignee
  | .milestone => .text e.milestone
  | .description => .text e.description
  | .labels => .list e.labels

theorem Entity.stored_applyChange_of_ne (e : Entity) {f g : Field} (v : FieldValue)
    (other : g ≠ f) : (e.applyChange g v).stored f = e.stored f := by
  cases g <;> cases f <;> first | rfl | exact absurd rfl other

theorem Field.name_injective : Function.Injective Field.name := by
  intro f g same
  cases f <;> cases g <;> first | rfl | simp [Field.name] at same

/-- The body of a field update has no member but the names of the fields it lists. -/
theorem fieldParams_get_none {fields : List (Field × FieldValue)} {k : String}
    (absent : ∀ x ∈ fields, x.1.name ≠ k) : Obj.get? (fieldParams fields) k = none := by
  rw [fieldParams, Obj.get?_ofList, Option.map_eq_none_iff, List.find?_eq_none]
  intro x mem
  obtain ⟨⟨g, v⟩, listed, rfl⟩ := List.mem_map.mp (List.mem_reverse.mp mem)
  simpa using absent _ listed

theorem fieldParams_omit {fields : List (Field × FieldValue)} {f : Field}
    (absent : ∀ x ∈ fields, x.1 ≠ f) : Obj.get? (fieldParams fields) f.name = none :=
  fieldParams_get_none fun x listed same => absent x listed (Field.name_injective same)

namespace Plan

def KeepsLocal (policy : SeedPolicy) (q : Plan) (f : Field) : Prop :=
  TrackerSync.KeepsLocal policy (q.base.map (·.snapshot)) q.localSnapshot q.remote f

def KeepsRemote (policy : SeedPolicy) (q : Plan) (f : Field) : Prop :=
  TrackerSync.KeepsRemote policy (q.base.map (·.snapshot)) q.localSnapshot q.remote f

section Kept

variable {policy : SeedPolicy} {q : Plan} (wellFormed : q.WellFormed policy) {f : Field}
include wellFormed

theorem toLocal_keeps (keeps : q.KeepsLocal policy f) : ∀ c ∈ q.toLocal, c.field ≠ f := by
  intro c mem
  obtain ⟨inChanges, toward⟩ := List.mem_filter.mp mem
  rcases wellFormed.detection with nothing | made
  · simp [Plan.changes, nothing] at inChanges
  · rw [Plan.changes, made] at inChanges
    exact detect_keeps_local keeps inChanges (by simpa using toward)

theorem toRemote_keeps (keeps : q.KeepsRemote policy f) : ∀ c ∈ q.toRemote, c.field ≠ f := by
  intro c mem
  obtain ⟨inChanges, toward⟩ := List.mem_filter.mp mem
  rcases wellFormed.detection with nothing | made
  · simp [Plan.changes, nothing] at inChanges
  · rw [Plan.changes, made] at inChanges
    exact detect_keeps_remote keeps inChanges (by simpa using toward)

end Kept

/-- The local item a plan saves agrees with the item as loaded on every field it does not
write. -/
theorem updated_stored (q : Plan) (now : Int) {f : Field}
    (untouched : ∀ c ∈ q.toLocal, c.field ≠ f) :
    (q.updated now).stored f = q.pairing.entity.stored f := by
  have stamped : ∀ e : Entity, ({ e with updatedAt := now } : Entity).stored f = e.stored f := by
    intro e
    cases f <;> rfl
  have written : ∀ (changes : List FieldChange) (e : Entity), (∀ c ∈ changes, c.field ≠ f) →
      (changes.foldl (fun e c => e.applyChange c.field c.value) e).stored f = e.stored f := by
    intro changes
    induction changes with
    | nil => intro e _; rfl
    | cons c rest ih =>
      intro e others
      rw [List.foldl_cons, ih _ fun c' mem => others c' (List.mem_cons_of_mem c mem),
        Entity.stored_applyChange_of_ne e _ (others c List.mem_cons_self)]
  rw [updated, stamped]
  exact written q.toLocal q.pairing.entity untouched

end Plan

/-- A local row keeps field `f` of the item of a pairing: it is as it was, holds an item that
agrees with the pairing's item on `f`, or is gone (an import's row). -/
def RowKeeps (f : Field) (pairing : Pairing) (before after : Option Entity × Option (List Cell)) :
    Prop :=
  after = before ∨ (∃ e, after = (some e, none) ∧ e.stored f = pairing.entity.stored f) ∨
    (pairing.isImport = true ∧ after = (none, none))

/-- What may stand in a plan's own local row once it is carried out: the row as it was, the
item as loaded put back, no row (an imported item removed), or the updated item. -/
def Plan.OwnRow (q : Plan) (before after : Option Entity × Option (List Cell)) : Prop :=
  after = before ∨ (∃ e, q.pairing = .linked e ∧ after = (some e, none)) ∨
    (q.pairing.isImport = true ∧ after = (none, none)) ∨
    ∃ now, after = (some (q.updated now), none)

theorem Plan.OwnRow.rowKeeps {q : Plan} {before after : Option Entity × Option (List Cell)}
    (own : q.OwnRow before after) {f : Field} (untouched : ∀ c ∈ q.toLocal, c.field ≠ f) :
    RowKeeps f q.pairing before after := by
  rcases own with same | ⟨e, linked, putBack⟩ | removed | ⟨now, updated⟩
  · exact .inl same
  · exact .inr (.inl ⟨e, putBack, by rw [linked]; rfl⟩)
  · exact .inr (.inr removed)
  · exact .inr (.inl ⟨_, updated, q.updated_stored now untouched⟩)

theorem Plan.NoPartialCommit.ownRow {q : Plan} {s s' : Store} (left : q.NoPartialCommit s s') :
    q.OwnRow (s.rowAt q.localId) (s'.rowAt q.localId) := by
  rcases left.own with same | putBack | removed | ⟨now, -, updated⟩
  · exact .inl same
  · exact .inr (.inl putBack)
  · exact .inr (.inr (.inl removed))
  · exact .inr (.inr (.inr ⟨now, updated⟩))

theorem Links.commitWith_rowAt (s : Store) (l r : String) (extra : List Write) (now : Int)
    (id : String) : (Links.commitWith s l r extra now).1.rowAt id = s.rowAt id := by
  rcases Links.commitWith_store s l r extra now with same | ⟨ops, -, written⟩
  · rw [same]
  · rw [written, Store.writeBatch_rowAt]

/-- The local save of a plan touches only the plan's own row, where it puts the updated item. -/
theorem Plan.Saves.rowAt {q : Plan} {now : Int} {s saved : Store} (saves : q.Saves now s saved)
    (localId : q.localId = q.pairing.entity.id) :
    (∀ id, id ≠ q.localId → saved.rowAt id = s.rowAt id) ∧
      (saved.rowAt q.localId = s.rowAt q.localId ∨
        saved.rowAt q.localId = (some (q.updated now), none)) := by
  unfold Saves at saves
  split at saves
  · have rows := Store.save_rowAt saves
    refine ⟨fun id other => ?_, .inr ?_⟩
    · rw [rows, if_neg]
      rw [updated_id, ← localId]
      exact fun same => other same.symm
    · rw [rows, if_pos (by rw [updated_id, localId])]
  · rw [saves]
    exact ⟨fun _ _ => rfl, .inl rfl⟩

/-- Carrying out the plan `q` from the store `s` and the log `log` left `s'` and `log'` with no
edit overwritten: no local row but its own touched, every field edited locally kept on its own
row, and no request sent that sets a field edited on the tracker. -/
structure Plan.KeepsEdits (policy : SeedPolicy) (q : Plan) (s : Store) (log : List Remote.Sent)
    (s' : Store) (log' : List Remote.Sent) : Prop where
  rows : ∀ id, id ≠ q.localId → s'.rowAt id = s.rowAt id
  ownRow : ∀ f, q.KeepsLocal policy f → RowKeeps f q.pairing (s.rowAt q.localId) (s'.rowAt q.localId)
  sent : ∃ sent, log' = log ++ sent ∧
    ∀ f, q.KeepsRemote policy f → ∀ m ∈ sent, Obj.get? m.params f.name = none

namespace SyncM

section Outcome

variable {collection : Collection} {q : Plan} {d : Detection} {clock : CacheClock} {now : Int}
  {s s' : Store} {log log' : List Remote.Sent} {result : Except Error Unit}

theorem ApplyOutcome.rows (localId : q.localId = q.pairing.entity.id)
    (calm : s.faults.interference = none)
    (outcome : ApplyOutcome collection q d clock now s log result s' log') :
    (∀ id, id ≠ q.localId → s'.rowAt id = s.rowAt id) ∧
      q.OwnRow (s.rowAt q.localId) (s'.rowAt q.localId) := by
  cases outcome with
  | unread _ => exact ⟨fun _ _ => rfl, .inl rfl⟩
  | refreshed => exact ⟨fun id _ => Store.writeBatch_rowAt _ _ id, .inl (Store.writeBatch_rowAt _ _ _)⟩
  | pushRefused _ _ => exact ⟨fun _ _ => rfl, .inl rfl⟩
  | pushIgnored _ _ =>
    have left := Plan.noPartialCommit_compensated_false q s
    exact ⟨left.rows, left.ownRow⟩
  | saveRefused _ _ _ =>
    have left := Plan.noPartialCommit_compensated_false q s
    exact ⟨left.rows, left.ownRow⟩
  | commitRefused _ saved remoteAfter saves refused =>
    rw [Links.commitWith_failed (saves.calm calm) refused]
    have left := Plan.noPartialCommit_compensated_saved q localId saves
    exact ⟨left.rows, left.ownRow⟩
  | committed saved remoteAfter saves _ _ =>
    obtain ⟨rows, own⟩ := saves.rowAt localId
    refine ⟨fun id other => (Links.commitWith_rowAt _ _ _ _ _ id).trans (rows id other), ?_⟩
    rw [Links.commitWith_rowAt]
    rcases own with same | updated
    · exact .inl same
    · exact .inr (.inr (.inr ⟨now, updated⟩))

/-- Carrying out a plan sends nothing, its push, or its push and the push set back. -/
theorem ApplyOutcome.sent
    (outcome : ApplyOutcome collection q d clock now s log result s' log') :
    log' = log ∨ log' = log ++ pushes (q.itemPath collection) q.toRemote ∨
      log' = log ++ pushes (q.itemPath collection) q.toRemote ++
        reverts q (q.itemPath collection) q.toRemote := by
  cases outcome with
  | unread _ => exact .inl rfl
  | refreshed => exact .inl rfl
  | pushRefused _ _ => exact .inr (.inl rfl)
  | pushIgnored _ _ => exact .inr (.inr rfl)
  | saveRefused _ _ _ => exact .inr (.inr rfl)
  | commitRefused _ _ _ _ _ => exact .inr (.inr rfl)
  | committed _ _ _ _ _ => exact .inr (.inl rfl)

theorem pushes_omit {itemPath : String} {changes : List FieldChange} {f : Field}
    (untouched : ∀ c ∈ changes, c.field ≠ f) :
    ∀ m ∈ pushes itemPath changes, Obj.get? m.params f.name = none := by
  intro m mem
  unfold pushes at mem
  split at mem
  · cases mem
  · rw [List.mem_singleton.mp mem]
    exact fieldParams_omit fun x mem' => by
      obtain ⟨c, inChanges, rfl⟩ := List.mem_map.mp mem'
      exact untouched c inChanges

/-- Nor does the compensation of a push: it sets back the fields the push set. -/
theorem reverts_omit (q : Plan) {itemPath : String} {changes : List FieldChange} {f : Field}
    (untouched : ∀ c ∈ changes, c.field ≠ f) :
    ∀ m ∈ reverts q itemPath changes, Obj.get? m.params f.name = none := by
  intro m mem
  unfold reverts at mem
  split at mem
  · cases mem
  · rw [List.mem_singleton.mp mem]
    exact fieldParams_omit fun x mem' => by
      obtain ⟨c, inChanges, rfl⟩ := List.mem_map.mp mem'
      exact untouched c inChanges

end Outcome

theorem Applied.keeps {collection : Collection} {policy : SeedPolicy} {q : Plan}
    (wellFormed : q.WellFormed policy) {clock : CacheClock} {now : Int} {s s' : Store}
    {log log' : List Remote.Sent} {result : Except Error Unit}
    (calm : s.faults.interference = none)
    (applied : Applied collection q clock now s log result s' log') :
    q.KeepsEdits policy s log s' log' := by
  cases applied with
  | cached _ =>
    refine ⟨fun id _ => Store.writeBatch_rowAt _ _ id,
      fun _ _ => .inl (Store.writeBatch_rowAt _ _ _), ⟨[], (List.append_nil log).symm, ?_⟩⟩
    intro _ _ m mem
    cases mem
  | detected d _ outcome =>
    obtain ⟨rows, own⟩ := outcome.rows wellFormed.localId calm
    refine ⟨rows, fun f keeps => own.rowKeeps (q.toLocal_keeps wellFormed keeps), ?_⟩
    -- what is sent: nothing, the push, or the push and its compensation
    rcases outcome.sent with same | pushed | undone
    · refine ⟨[], by rw [same, List.append_nil], fun _ _ m mem => ?_⟩
      cases mem
    · exact ⟨_, pushed, fun f keeps => pushes_omit (q.toRemote_keeps wellFormed keeps)⟩
    · refine ⟨_, by rw [undone, List.append_assoc], fun f keeps m mem => ?_⟩
      have untouched := q.toRemote_keeps wellFormed keeps
      rcases List.mem_append.mp mem with push | revert
      · exact pushes_omit untouched m push
      · exact reverts_omit q untouched m revert

end SyncM

/-- Processing an entity overwrites no edit: it writes nothing, or its plan keeps every field edited
locally on its row and sends no request that sets a field edited on the tracker. -/
theorem processed_entity_keeps_edits {r : Runner} (logged : r.Logged) (collection : Collection)
    (abort : Bool) {p : Plan} (wellFormed : p.WellFormed r.options.seedPolicy) (w : World)
    (calm : w.store.faults.interference = none) :
    ((StateT.run (SyncM.process r collection abort p) w).2.store = w.store ∧
        (StateT.run (SyncM.process r collection abort p) w).2.tracker.log = w.tracker.log) ∨
      ∃ q : Plan, q.remoteId = p.remoteId ∧ q.remote = p.remote ∧
        q.WellFormed r.options.seedPolicy ∧ q.pairing.LoadsFrom w.store ∧
        q.KeepsEdits r.options.seedPolicy w.store w.tracker.log
          (StateT.run (SyncM.process r collection abort p) w).2.store
          (StateT.run (SyncM.process r collection abort p) w).2.tracker.log := by
  have outcome := SyncM.process_outcome logged collection abort (p := p) w
  generalize (StateT.run (SyncM.process r collection abort p) w).1.1 = rep at outcome
  generalize (StateT.run (SyncM.process r collection abort p) w).2.store = s' at outcome ⊢
  generalize (StateT.run (SyncM.process r collection abort p) w).2.tracker.log = log' at outcome ⊢
  cases outcome with
  | cancelled => exact .inl ⟨rfl, rfl⟩
  | dropped _ _ => exact .inl ⟨rfl, rfl⟩
  | carried q clock now result s' log' rechecked applied =>
    obtain ⟨remoteId, remote, wellFormed', loads⟩ := rechecked.carried wellFormed
    exact .inr ⟨q, remoteId, remote, wellFormed', loads, applied.keeps wellFormed' calm⟩

def fillStatusWorld : World :=
  { store := (Links.link (({} : Store).saveEntity unsetStatusItem) "L1" "7" 0).1
    clock := 0, wallClock := 0 }

theorem processed_entity_keeps_edits_on_first_sync :
    scriptedRunner.Logged ∧ fillStatusPlan.WellFormed scriptedRunner.options.seedPolicy ∧
      fillStatusWorld.store.faults.interference = none ∧
      (((StateT.run (SyncM.process scriptedRunner (.ofKind .issue) false fillStatusPlan)
            fillStatusWorld).2.store = fillStatusWorld.store ∧
          (StateT.run (SyncM.process scriptedRunner (.ofKind .issue) false fillStatusPlan)
            fillStatusWorld).2.tracker.log = fillStatusWorld.tracker.log) ∨
        ∃ q : Plan, q.remoteId = fillStatusPlan.remoteId ∧ q.remote = fillStatusPlan.remote ∧
          q.WellFormed scriptedRunner.options.seedPolicy ∧
          q.pairing.LoadsFrom fillStatusWorld.store ∧
          q.KeepsEdits scriptedRunner.options.seedPolicy fillStatusWorld.store
            fillStatusWorld.tracker.log
            (StateT.run (SyncM.process scriptedRunner (.ofKind .issue) false fillStatusPlan)
              fillStatusWorld).2.store
            (StateT.run (SyncM.process scriptedRunner (.ofKind .issue) false fillStatusPlan)
              fillStatusWorld).2.tracker.log) := by
  have logged := Runner.logged_of_scripted (r := scriptedRunner) rfl
  have wellFormed : fillStatusPlan.WellFormed scriptedRunner.options.seedPolicy :=
    ⟨rfl, rfl, .inr rfl⟩
  exact ⟨logged, wellFormed, rfl,
    processed_entity_keeps_edits logged _ false wellFormed fillStatusWorld rfl⟩

end TrackerSync