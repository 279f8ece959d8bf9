import Mathlib.Logic.Relation
import TrackerSync.Proofs.Json.Records
import TrackerSync.Proofs.Store.Batch

/-!
The link table stays a bijection under any interleaving of commits, unlinks and batches planned
against earlier stores.
-/

namespace TrackerSync

theorem Entity.intOf_ofInt (t : Int) : Entity.intOf (Json.ofInt t) = t := by
  unfold Json.ofInt
  split
  · simp [Entity.intOf]; omega
  · simp [Entity.intOf]; omega

namespace LinkRecord

def StampFits (t : Int) : Prop := -2 ^ 63 ≤ t ∧ t ≤ 2 ^ 63 - 1

theorem toJson_members (r : LinkRecord) :
    r.toJson = .obj [("local_id", .str r.localId), ("remote_id", .str r.remoteId),
      ("linked_at", Json.ofInt r.linkedAt)] := rfl

theorem fitsFields (r : LinkRecord) (stamp : StampFits r.linkedAt) :
    Json.FitsFields [("local_id", .text, .required), ("remote_id", .text, .required),
      ("linked_at", Entity.i64Shape, .required)]
      [("local_id", .str r.localId), ("remote_id", .str r.remoteId),
        ("linked_at", Json.ofInt r.linkedAt)] where
  readable := by
    intro m mem
    simp only [List.mem_cons, List.not_mem_nil, or_false] at mem
    rcases mem with rfl | rfl | rfl
    · exact ⟨_, rfl, Json.readsBack_text _⟩
    · exact ⟨_, rfl, Json.readsBack_text _⟩
    · refine ⟨_, rfl, Json.readsBack_ofInt _ (by decide) (by decide) ?_⟩
      unfold StampFits at stamp
      omega
  distinct := by simp
  complete := by simp

theorem decode_text (r : LinkRecord) (stamp : StampFits r.linkedAt) : decode r.text = .ok r := by
  rw [decode, text, toJson_members, shape,
    Json.Shape.decode_record _ _ (fitsFields r stamp) (List.cons_ne_nil _ _)]
  simp [Json.mkObj, Json.getStr?, Json.get?, Obj.get?_ofList, Entity.intOf_ofInt]

end LinkRecord

namespace Links

section NewLink

variable (l r v : String) (heldL heldR : Option String) (key : String) (before : Option String)

/-- The batch of a new link: the requirements read, the dropping of the pair's sync state, and
the two entries of the record. -/
def newLinkWrites : List Write :=
  [.require nsLinkLocal l heldL, .require nsLinkRemote r heldR] ++ pairCleanup r ++
    [.put nsLinkLocal l v, .put nsLinkRemote r v]

theorem newLinkWrites_local :
    Write.onKeyAll (newLinkWrites l r v heldL heldR) nsLinkLocal key before =
      if l = key then some v else before := by
  by_cases here : l = key <;>
    simp [here, newLinkWrites, Write.onKeyAll, Write.onKey, pairCleanup, nsLinkLocal,
      nsLinkRemote, nsBase, nsConflicts, nsCache]

theorem newLinkWrites_remote :
    Write.onKeyAll (newLinkWrites l r v heldL heldR) nsLinkRemote key before =
      if r = key then some v else before := by
  by_cases here : r = key <;>
    simp [here, newLinkWrites, Write.onKeyAll, Write.onKey, pairCleanup, nsLinkLocal,
      nsLinkRemote, nsBase, nsConflicts, nsCache]

theorem newLinkWrites_pairState {ns : String} (pairSpace : ns = nsBase ∨ ns = nsConflicts) :
    Write.onKeyAll (newLinkWrites l r v heldL heldR) ns key before =
      if r = key then none else before := by
  rcases pairSpace with rfl | rfl <;> by_cases here : r = key <;>
    simp [here, newLinkWrites, Write.onKeyAll, Write.onKey, pairCleanup, nsLinkLocal,
      nsLinkRemote, nsBase, nsConflicts, nsCache]

end NewLink

section Unlink

variable (l raw remoteId : String) (key : String) (before : Option String)

/-- The batch of an unlink: the requirement of the local entry read, the deletion of both
entries, and the dropping of the pair's sync state. -/
def unlinkWrites : List Write :=
  [.require nsLinkLocal l (some raw), .delete nsLinkLocal l, .delete nsLinkRemote remoteId] ++
    pairCleanup remoteId

theorem unlinkWrites_local :
    Write.onKeyAll (unlinkWrites l raw remoteId) nsLinkLocal key before =
      if l = key then none else before := by
  by_cases here : l = key <;>
    simp [here, unlinkWrites, Write.onKeyAll, Write.onKey, pairCleanup, nsLinkLocal,
      nsLinkRemote, nsBase, nsConflicts, nsCache]

theorem unlinkWrites_remote :
    Write.onKeyAll (unlinkWrites l raw remoteId) nsLinkRemote key before =
      if remoteId = key then none else before := by
  by_cases here : remoteId = key <;>
    simp [here, unlinkWrites, Write.onKeyAll, Write.onKey, pairCleanup, nsLinkLocal,
      nsLinkRemote, nsBase, nsConflicts, nsCache]

theorem unlinkWrites_pairState {ns : String} (pairSpace : ns = nsBase ∨ ns = nsConflicts) :
    Write.onKeyAll (unlinkWrites l raw remoteId) ns key before =
      if remoteId = key then none else before := by
  rcases pairSpace with rfl | rfl <;> by_cases here : remoteId = key <;>
    simp [here, unlinkWrites, Write.onKeyAll, Write.onKey, pairCleanup, nsLinkLocal,
      nsLinkRemote, nsBase, nsConflicts, nsCache]

end Unlink

theorem read_some {s : Store} {ns key : String} {r : LinkRecord} {raw : String}
    (h : read s ns key = .ok (some (r, raw))) :
    s.get ns key = some raw ∧ LinkRecord.decode raw = .ok r := by
  unfold read at h
  split at h
  · cases h
  · rename_i text stored
    split at h
    · rename_i r' decoded
      cases h
      exact ⟨stored, decoded⟩
    · cases h

/-- What a link batch can be: the two requirements of a pair already linked, or, when neither
side is linked elsewhere, the requirements of what was read, the dropping of the pair's sync
state and the two entries of the new record. -/
theorem linkOps_cases {s : Store} {l r : String} {now : Int} {ops : List Write}
    (planned : linkOps s l r now = .ok ops) :
    (∃ rawL rawR, ops = [.require nsLinkLocal l (some rawL), .require nsLinkRemote r (some rawR)]) ∨
    (∃ heldL heldR, ops = newLinkWrites l r (LinkRecord.mk l r now).text heldL heldR ∧
      (heldL = none ∨ heldR = none) ∧
      (∀ raw, heldL = some raw → ∃ a, LinkRecord.decode raw = .ok a ∧ a.remoteId = r) ∧
      (∀ raw, heldR = some raw → ∃ b, LinkRecord.decode raw = .ok b ∧ b.localId = l)) := by
  cases hL : read s nsLinkLocal l with
  | error e => simp [linkOps, hL, bind, Except.bind] at planned
  | ok eR =>
    cases hR : read s nsLinkRemote r with
    | error e => simp [linkOps, hL, hR, bind, Except.bind] at planned
    | ok eL =>
      simp only [linkOps, hL, hR, bind, Except.bind] at planned
      rcases eR with _ | ⟨a, rawA⟩ <;> rcases eL with _ | ⟨b, rawB⟩
      · simp only [pure, Except.pure, Except.ok.injEq] at planned
        exact .inr ⟨none, none, by rw [← planned]; rfl, .inl rfl, by simp, by simp⟩
      · have decodedB := (read_some hR).2
        simp only at planned
        split at planned
        · simp [throw, throwThe, MonadExceptOf.throw] at planned
        · rename_i linked
          simp only [pure, Except.pure, Except.ok.injEq] at planned
          refine .inr ⟨none, some rawB, by rw [← planned]; rfl, .inl rfl, by simp, ?_⟩
          intro raw held
          cases held
          exact ⟨b, decodedB, by simpa using linked⟩
      · have decodedA := (read_some hL).2
        simp only at planned
        split at planned
        · simp [throw, throwThe, MonadExceptOf.throw] at planned
        · rename_i linked
          simp only [pure, Except.pure, Except.ok.injEq] at planned
          refine .inr ⟨some rawA, none, by rw [← planned]; rfl, .inr rfl, ?_, by simp⟩
          intro raw held
          cases held
          exact ⟨a, decodedA, by simpa using linked⟩
      · simp only at planned
        split at planned
        · simp only [pure, Except.pure, Except.ok.injEq] at planned
          exact .inl ⟨rawA, rawB, planned.symm⟩
        · split at planned <;> simp [throw, throwThe, MonadExceptOf.throw] at planned

/-- An unlink batch requires the local entry read, and drops both entries of its record and the
pair's sync state. -/
theorem unlinkOps_cases {s : Store} {l : String} {ops : List Write}
    (planned : unlinkOps s l = .ok ops) :
    ∃ raw rec, LinkRecord.decode raw = .ok rec ∧
      ops = unlinkWrites l raw rec.remoteId := by
  cases hL : read s nsLinkLocal l with
  | error e => simp [unlinkOps, unlinkPlan, hL, bind, Except.bind, Except.map] at planned
  | ok entry =>
    rcases entry with _ | ⟨rec, raw⟩
    · simp [unlinkOps, unlinkPlan, hL, bind, Except.bind, Except.map, throw, throwThe,
        MonadExceptOf.throw] at planned
    · simp only [unlinkOps, unlinkPlan, hL, bind, Except.bind, Except.map, pure, Except.pure,
        Except.ok.injEq] at planned
      exact ⟨raw, rec, (read_some hL).2, planned.symm⟩

/-- A commit leaves the store as it was or as the batch of its link and extra writes left it. -/
theorem commitWith_store (s : Store) (l r : String) (extra : List Write) (now : Int) :
    (commitWith s l r extra now).1 = s ∨
      ∃ ops, linkOps s l r now = .ok ops ∧
        (commitWith s l r extra now).1 = (s.writeBatch (ops ++ extra)).1 := by
  unfold commitWith
  split
  · exact .inl rfl
  · rename_i ops planned
    dsimp only
    split
    · exact .inl rfl
    · split
      · rename_i s' written
        exact .inr ⟨ops, planned, by rw [written]⟩
      · rename_i s' e written
        split <;> exact .inr ⟨ops, planned, by rw [written]⟩
      · rename_i s' e _ written
        exact .inr ⟨ops, planned, by rw [written]⟩

theorem commitWith_faults {s : Store} (calm : s.faults.interference = none) (l r : String)
    (extra : List Write) (now : Int) : (commitWith s l r extra now).1.faults = s.faults := by
  rcases commitWith_store s l r extra now with same | ⟨ops, -, after⟩
  · rw [same]
  · rw [after, Store.writeBatch_faults calm]

theorem commitWith_failed {s : Store} (calm : s.faults.interference = none) {l r : String}
    {extra : List Write} {now : Int} {e : LinkError}
    (failed : (commitWith s l r extra now).2 = .error e) : (commitWith s l r extra now).1 = s := by
  unfold commitWith at failed ⊢
  split
  · rfl
  · rename_i ops planned
    rw [planned] at failed
    dsimp only at failed ⊢
    split
    · rfl
    · rename_i notOnlyRequires
      rw [if_neg notOnlyRequires] at failed
      split
      · rename_i s' written
        rw [written] at failed
        cases failed
      · rename_i s' conflict written
        have := Store.writeBatch_failed calm _ (by rw [written])
        rw [written] at this
        split <;> exact this
      · rename_i s' e' _ written
        have := Store.writeBatch_failed calm _ (by rw [written])
        rw [written] at this
        exact this

theorem commitWith_committed {s : Store} (calm : s.faults.interference = none) {l r : String}
    {extra ops : List Write} {now : Int} (planned : linkOps s l r now = .ok ops)
    (writes : (ops ++ extra).all Write.isRequire = false)
    (done : (commitWith s l r extra now).2 = .ok ()) :
    s.commitBatch (ops ++ extra) = .ok (commitWith s l r extra now).1 := by
  unfold commitWith at done ⊢
  rw [planned] at done ⊢
  dsimp only at done ⊢
  rw [if_neg (by simp [writes])] at done ⊢
  rw [Store.writeBatch_calm calm] at done ⊢
  -- a refused batch or a failed commit answers with an error
  by_cases failing : s.faults.failBatches = true
  · simp [failing, diskFull] at done
  · cases committed : s.commitBatch (ops ++ extra) with
    | ok s' => simp [failing]
    | error e =>
      rw [if_neg failing, committed] at done
      dsimp only at done
      split at done
      · next unwritten => cases unwritten
      · split at done <;> cases done
      · cases done

theorem linkOps_unlinked {s : Store} {l r : String} {now : Int} {ops : List Write}
    (free : s.get nsLinkRemote r = none) (planned : linkOps s l r now = .ok ops) :
    ∃ heldL, ops = newLinkWrites l r (LinkRecord.mk l r now).text heldL none := by
  have readR : read s nsLinkRemote r = .ok none := by rw [read, free]
  cases hL : read s nsLinkLocal l with
  | error e => simp [linkOps, hL, bind, Except.bind] at planned
  | ok eR =>
    simp only [linkOps, hL, readR, bind, Except.bind] at planned
    rcases eR with _ | ⟨a, rawA⟩
    · simp only [pure, Except.pure, Except.ok.injEq] at planned
      exact ⟨none, by rw [← planned]; rfl⟩
    · simp only at planned
      split at planned
      · simp [throw, throwThe, MonadExceptOf.throw] at planned
      · simp only [pure, Except.pure, Except.ok.injEq] at planned
        exact ⟨some rawA, by rw [← planned]; rfl⟩

theorem unlink_store (s : Store) (l : String) :
    (unlink s l).1 = s ∨ ∃ ops, unlinkOps s l = .ok ops ∧ (unlink s l).1 = (s.writeBatch ops).1 := by
  unfold unlink
  split
  · exact .inl rfl
  · rename_i rec ops planned
    have opsPlanned : unlinkOps s l = .ok ops := by simp [unlinkOps, planned, Except.map]
    split
    · rename_i s' written
      exact .inr ⟨ops, opsPlanned, by rw [written]⟩
    · rename_i s' e written
      split <;> exact .inr ⟨ops, opsPlanned, by rw [written]⟩
    · rename_i s' e _ written
      exact .inr ⟨ops, opsPlanned, by rw [written]⟩

theorem unlink_failed {s : Store} (calm : s.faults.interference = none) {l : String}
    {e : LinkError} (failed : (unlink s l).2 = .error e) : (unlink s l).1 = s := by
  unfold unlink at failed ⊢
  split
  · rfl
  · rename_i rec ops planned
    rw [planned] at failed
    dsimp only at failed ⊢
    split
    · rename_i s' written
      rw [written] at failed
      cases failed
    · rename_i s' conflict written
      have := Store.writeBatch_failed calm _ (by rw [written])
      rw [written] at this
      split <;> exact this
    · rename_i s' e' _ written
      have := Store.writeBatch_failed calm _ (by rw [written])
      rw [written] at this
      exact this

end Links

namespace Write

def OutsideLinks (w : Write) : Prop := w.target.1 ≠ nsLinkLocal ∧ w.target.1 ≠ nsLinkRemote

/-- A write that changes the base or the open conflicts only of the pair of `remoteId`. -/
def KeepsPairState (remoteId : String) (w : Write) : Prop :=
  w.target.1 = nsBase ∨ w.target.1 = nsConflicts → w.target.2 = remoteId

theorem onKeyAll_outside {ws : List Write} (outside : ∀ w ∈ ws, w.OutsideLinks) {ns : String}
    (linkSpace : ns = nsLinkLocal ∨ ns = nsLinkRemote) (key : String) (before : Option String) :
    onKeyAll ws ns key before = before :=
  onKeyAll_of_ne (fun w mem same => by
    have := outside w mem
    rcases linkSpace with rfl | rfl
    · exact this.1 (congrArg Prod.fst same)
    · exact this.2 (congrArg Prod.fst same)) before

theorem onKeyAll_keeps {ws : List Write} {remoteId : String}
    (keeps : ∀ w ∈ ws, w.KeepsPairState remoteId) {ns : String}
    (pairSpace : ns = nsBase ∨ ns = nsConflicts) {key : String} (other : remoteId ≠ key)
    (before : Option String) : Write.onKeyAll ws ns key before = before :=
  Write.onKeyAll_of_ne (fun w mem same => other (by
    have named := keeps w mem (by rw [same]; exact pairSpace)
    rw [same] at named
    exact named.symm)) before

end Write

namespace Store

/-- The link table of a store is a bijection: the entry of a local id holds the text of a link
record of that local id, and the entry of the record's remote id holds the same text; and the
same from the remote side. -/
structure LinksBijective (s : Store) : Prop where
  fromLocal : ∀ l raw, s.get nsLinkLocal l = some raw →
    ∃ rec, LinkRecord.decode raw = .ok rec ∧ rec.localId = l ∧
      s.get nsLinkRemote rec.remoteId = some raw
  fromRemote : ∀ r raw, s.get nsLinkRemote r = some raw →
    ∃ rec, LinkRecord.decode raw = .ok rec ∧ rec.remoteId = r ∧
      s.get nsLinkLocal rec.localId = some raw

def PairStateLinked (s : Store) : Prop :=
  ∀ remoteId, s.get nsLinkRemote remoteId = none →
    s.get nsBase remoteId = none ∧ s.get nsConflicts remoteId = none

theorem LinksBijective.of_links_eq {s s' : Store} (bij : s.LinksBijective)
    (same : ∀ ns key, ns = nsLinkLocal ∨ ns = nsLinkRemote → s'.get ns key = s.get ns key) :
    s'.LinksBijective where
  fromLocal l raw held := by
    rw [same _ _ (.inl rfl)] at held
    obtain ⟨rec, decoded, named, other⟩ := bij.fromLocal l raw held
    exact ⟨rec, decoded, named, by rw [same _ _ (.inr rfl)]; exact other⟩
  fromRemote r raw held := by
    rw [same _ _ (.inr rfl)] at held
    obtain ⟨rec, decoded, named, other⟩ := bij.fromRemote r raw held
    exact ⟨rec, decoded, named, by rw [same _ _ (.inl rfl)]; exact other⟩

/-- A new link commits against a bijective table only where both ids are free: a side found
linked names the other id, whose entry then holds the same text. -/
theorem LinksBijective.newLink_free {s s' : Store} (bij : s.LinksBijective) {l r v : String}
    {heldL heldR : Option String} {extra : List Write} (apart : heldL = none ∨ heldR = none)
    (localSide : ∀ raw, heldL = some raw → ∃ a, LinkRecord.decode raw = .ok a ∧ a.remoteId = r)
    (remoteSide : ∀ raw, heldR = some raw → ∃ b, LinkRecord.decode raw = .ok b ∧ b.localId = l)
    (committed : s.commitBatch (Links.newLinkWrites l r v heldL heldR ++ extra) = .ok s') :
    s.get nsLinkLocal l = none ∧ s.get nsLinkRemote r = none := by
  have requiresFirst : Links.newLinkWrites l r v heldL heldR ++ extra =
      [.require nsLinkLocal l heldL, .require nsLinkRemote r heldR] ++
        (Links.pairCleanup r ++ [.put nsLinkLocal l v, .put nsLinkRemote r v] ++ extra) := by
    simp [Links.newLinkWrites]
  have front := commitBatch_front (requiresFirst ▸ committed) (by simp [Write.isRequire])
  have readL : s.get nsLinkLocal l = heldL := front _ _ _ (by simp)
  have readR : s.get nsLinkRemote r = heldR := front _ _ _ (by simp)
  constructor
  · cases held : heldL with
    | none => rw [readL, held]
    | some raw =>
      obtain ⟨a, decodedA, toR⟩ := localSide raw held
      obtain ⟨rec, decoded, -, other⟩ := bij.fromLocal l raw (readL.trans held)
      rw [Except.ok.inj (decoded.symm.trans decodedA), toR, readR] at other
      rcases apart with none | none <;> simp_all
  · cases held : heldR with
    | none => rw [readR, held]
    | some raw =>
      obtain ⟨b, decodedB, toL⟩ := remoteSide raw held
      obtain ⟨rec, decoded, -, other⟩ := bij.fromRemote r raw (readR.trans held)
      rw [Except.ok.inj (decoded.symm.trans decodedB), toL, readL] at other
      rcases apart with none | none <;> simp_all

/-- A new link committed against a bijective table keeps it bijective: the requirements it
carries find both ids free, so the record's two entries are the only ones that name them. -/
theorem LinksBijective.newLink {s s' : Store} (bij : s.LinksBijective) {l r : String} {now : Int}
    {heldL heldR : Option String} {extra : List Write} (stamp : LinkRecord.StampFits now)
    (outside : ∀ w ∈ extra, w.OutsideLinks) (apart : heldL = none ∨ heldR = none)
    (localSide : ∀ raw, heldL = some raw → ∃ a, LinkRecord.decode raw = .ok a ∧ a.remoteId = r)
    (remoteSide : ∀ raw, heldR = some raw → ∃ b, LinkRecord.decode raw = .ok b ∧ b.localId = l)
    (committed : s.commitBatch
      (Links.newLinkWrites l r (LinkRecord.mk l r now).text heldL heldR ++ extra) = .ok s') :
    s'.LinksBijective := by
  obtain ⟨freeL, freeR⟩ := bij.newLink_free apart localSide remoteSide committed
  have after : ∀ ns key, ns = nsLinkLocal ∨ ns = nsLinkRemote →
      s'.get ns key = Write.onKeyAll (Links.newLinkWrites l r (LinkRecord.mk l r now).text heldL heldR)
        ns key (s.get ns key) := by
    intro ns key linkSpace
    rw [commitBatch_get committed, Write.onKeyAll_append, Write.onKeyAll_outside outside linkSpace]
  have decoded := LinkRecord.decode_text ⟨l, r, now⟩ stamp
  constructor
  · intro key raw held
    rw [after _ _ (.inl rfl), Links.newLinkWrites_local] at held
    by_cases here : l = key
    · subst here
      simp only [if_true, Option.some.injEq] at held
      subst held
      refine ⟨⟨l, r, now⟩, decoded, rfl, ?_⟩
      rw [after _ _ (.inr rfl), Links.newLinkWrites_remote]
      simp
    · rw [if_neg here] at held
      obtain ⟨rec, decodedRec, named, other⟩ := bij.fromLocal key raw held
      refine ⟨rec, decodedRec, named, ?_⟩
      rw [after _ _ (.inr rfl), Links.newLinkWrites_remote, if_neg]
      · exact other
      · rintro rfl
        rw [freeR] at other
        cases other
  · intro key raw held
    rw [after _ _ (.inr rfl), Links.newLinkWrites_remote] at held
    by_cases here : r = key
    · subst here
      simp only [if_true, Option.some.injEq] at held
      subst held
      refine ⟨⟨l, r, now⟩, decoded, rfl, ?_⟩
      rw [after _ _ (.inl rfl), Links.newLinkWrites_local]
      simp
    · rw [if_neg here] at held
      obtain ⟨rec, decodedRec, named, other⟩ := bij.fromRemote key raw held
      refine ⟨rec, decodedRec, named, ?_⟩
      rw [after _ _ (.inl rfl), Links.newLinkWrites_local, if_neg]
      · exact other
      · rintro rfl
        rw [freeL] at other
        cases other

/-- An unlink committed against a bijective table keeps it bijective: the local entry it
requires names the remote entry it deletes, and no other entry holds their text. -/
theorem LinksBijective.unlink {s s' : Store} (bij : s.LinksBijective) {l raw : String}
    {rec : LinkRecord} (decoded : LinkRecord.decode raw = .ok rec)
    (committed : s.commitBatch (Links.unlinkWrites l raw rec.remoteId) = .ok s') :
    s'.LinksBijective := by
  have requireFirst : Links.unlinkWrites l raw rec.remoteId = [.require nsLinkLocal l (some raw)] ++
      ([.delete nsLinkLocal l, .delete nsLinkRemote rec.remoteId] ++ Links.pairCleanup rec.remoteId) :=
    rfl
  have readL : s.get nsLinkLocal l = some raw :=
    commitBatch_front (requireFirst ▸ committed) (by simp [Write.isRequire]) _ _ _ (by simp)
  obtain ⟨rec', decoded', named, readR⟩ := bij.fromLocal l raw readL
  obtain rfl := Except.ok.inj (decoded'.symm.trans decoded)
  have after : ∀ ns key, s'.get ns key =
      Write.onKeyAll (Links.unlinkWrites l raw rec'.remoteId) ns key (s.get ns key) :=
    commitBatch_get committed
  constructor
  · intro key raw' held
    rw [after, Links.unlinkWrites_local] at held
    have other : l ≠ key := fun here => by rw [if_pos here] at held; cases held
    rw [if_neg other] at held
    obtain ⟨rec'', decoded'', named'', readR''⟩ := bij.fromLocal key raw' held
    refine ⟨rec'', decoded'', named'', ?_⟩
    rw [after, Links.unlinkWrites_remote, if_neg]
    · exact readR''
    · -- the same remote id would hold the same text, hence name the same local id
      intro same
      rw [← same, readR, Option.some.injEq] at readR''
      subst readR''
      rw [Except.ok.inj (decoded''.symm.trans decoded'), named] at named''
      exact other named''
  · intro key raw' held
    rw [after, Links.unlinkWrites_remote] at held
    have other : rec'.remoteId ≠ key := fun here => by rw [if_pos here] at held; cases held
    rw [if_neg other] at held
    obtain ⟨rec'', decoded'', named'', readL''⟩ := bij.fromRemote key raw' held
    refine ⟨rec'', decoded'', named'', ?_⟩
    rw [after, Links.unlinkWrites_local, if_neg]
    · exact readL''
    · intro same
      rw [← same, readL, Option.some.injEq] at readL''
      subst readL''
      rw [Except.ok.inj (decoded''.symm.trans decoded')] at named''
      exact other named''

/-- A new link leaves no sync state without a link: it drops the pair's, and its extra writes
only touch the pair it links. -/
theorem PairStateLinked.newLink {s s' : Store} (paired : s.PairStateLinked) {l r v : String}
    {heldL heldR : Option String} {extra : List Write} (outside : ∀ w ∈ extra, w.OutsideLinks)
    (keeps : ∀ w ∈ extra, w.KeepsPairState r)
    (committed : s.commitBatch (Links.newLinkWrites l r v heldL heldR ++ extra) = .ok s') :
    s'.PairStateLinked := by
  intro key free
  rw [commitBatch_get committed, Write.onKeyAll_append, Write.onKeyAll_outside outside (.inr rfl),
    Links.newLinkWrites_remote] at free
  have other : r ≠ key := fun here => by rw [if_pos here] at free; cases free
  rw [if_neg other] at free
  have pairSpace : ∀ ns, ns = nsBase ∨ ns = nsConflicts → s'.get ns key = s.get ns key := by
    intro ns space
    rw [commitBatch_get committed, Write.onKeyAll_append, Links.newLinkWrites_pairState _ _ _ _ _ _ _ space,
      if_neg other, Write.onKeyAll_keeps keeps space other]
  rw [pairSpace _ (.inl rfl), pairSpace _ (.inr rfl)]
  exact paired key free

/-- A batch of requirements on the pair's two entries and extra writes for the pair leaves no
sync state without a link: the requirements pin the remote entry. -/
theorem PairStateLinked.confirm {s s' : Store} (paired : s.PairStateLinked) {l r rawL rawR : String}
    {extra : List Write} (outside : ∀ w ∈ extra, w.OutsideLinks)
    (keeps : ∀ w ∈ extra, w.KeepsPairState r)
    (committed : s.commitBatch ([.require nsLinkLocal l (some rawL),
      .require nsLinkRemote r (some rawR)] ++ extra) = .ok s') :
    s'.PairStateLinked := by
  have readR : s.get nsLinkRemote r = some rawR :=
    commitBatch_front committed (by simp [Write.isRequire]) _ _ _ (by simp)
  intro key free
  have unchanged : ∀ ns, ns = nsLinkRemote ∨ ns = nsBase ∨ ns = nsConflicts →
      Write.onKeyAll [.require nsLinkLocal l (some rawL), .require nsLinkRemote r (some rawR)] ns key
        (s.get ns key) = s.get ns key := fun _ _ => rfl
  rw [commitBatch_get committed, Write.onKeyAll_append, Write.onKeyAll_outside outside (.inr rfl),
    unchanged _ (.inl rfl)] at free
  have other : r ≠ key := fun here => by rw [here, free] at readR; cases readR
  have pairSpace : ∀ ns, ns = nsBase ∨ ns = nsConflicts → s'.get ns key = s.get ns key := by
    intro ns space
    rw [commitBatch_get committed, Write.onKeyAll_append, unchanged _ (.inr space),
      Write.onKeyAll_keeps keeps space other]
  rw [pairSpace _ (.inl rfl), pairSpace _ (.inr rfl)]
  exact paired key free

theorem PairStateLinked.unlink {s s' : Store} (paired : s.PairStateLinked) {l raw remoteId : String}
    (committed : s.commitBatch (Links.unlinkWrites l raw remoteId) = .ok s') : s'.PairStateLinked := by
  intro key free
  rw [commitBatch_get committed, Links.unlinkWrites_remote] at free
  rw [commitBatch_get committed, commitBatch_get committed,
    Links.unlinkWrites_pairState _ _ _ _ _ (.inl rfl), Links.unlinkWrites_pairState _ _ _ _ _ (.inr rfl)]
  by_cases here : remoteId = key
  · simp [here]
  · rw [if_neg here] at free
    simp only [if_neg here]
    exact paired key free

end Store

/-- One atomic step of a writer of a link table shared through one store: a commit or an unlink run
whole, or the batch of one planned against an earlier store applied later. -/
inductive LinkStep (allowed : String → Write → Prop) : Store → Store → Prop
  | commit (s : Store) (localId remoteId : String) (extra : List Write) (now : Int)
      (stamp : LinkRecord.StampFits now) (carried : ∀ w ∈ extra, allowed remoteId w) :
      LinkStep allowed s (Links.commitWith s localId remoteId extra now).1
  | unlink (s : Store) (localId : String) : LinkStep allowed s (Links.unlink s localId).1
  | linkBatch (s earlier : Store) (localId remoteId : String) (now : Int) (ops extra : List Write)
      (planned : Links.linkOps earlier localId remoteId now = .ok ops)
      (stamp : LinkRecord.StampFits now) (carried : ∀ w ∈ extra, allowed remoteId w) :
      LinkStep allowed s (s.writeBatch (ops ++ extra)).1
  | unlinkBatch (s earlier : Store) (localId : String) (ops : List Write)
      (planned : Links.unlinkOps earlier localId = .ok ops) :
      LinkStep allowed s (s.writeBatch ops).1

namespace Store

section Batches

variable {s : Store} (calm : s.faults.interference = none)
include calm

theorem linkBatch_bijective (bij : s.LinksBijective) {earlier : Store} {l r : String} {now : Int}
    {ops extra : List Write} (planned : Links.linkOps earlier l r now = .ok ops)
    (stamp : LinkRecord.StampFits now) (outside : ∀ w ∈ extra, w.OutsideLinks) :
    (s.writeBatch (ops ++ extra)).1.LinksBijective := by
  rcases writeBatch_cases calm (ops ++ extra) with same | committed
  · rw [same]; exact bij
  · rcases Links.linkOps_cases planned with ⟨rawL, rawR, rfl⟩ | ⟨heldL, heldR, rfl, apart, sideL, sideR⟩
    · -- a confirmed pair: only requirements and writes outside the table
      refine bij.of_links_eq fun ns key linkSpace => ?_
      rw [commitBatch_get committed, Write.onKeyAll_append, Write.onKeyAll_outside outside linkSpace]
      rfl
    · exact bij.newLink stamp outside apart sideL sideR committed

theorem unlinkBatch_bijective (bij : s.LinksBijective) {earlier : Store} {l : String}
    {ops : List Write} (planned : Links.unlinkOps earlier l = .ok ops) :
    (s.writeBatch ops).1.LinksBijective := by
  rcases writeBatch_cases calm ops with same | committed
  · rw [same]; exact bij
  · obtain ⟨raw, rec, decoded, rfl⟩ := Links.unlinkOps_cases planned
    exact bij.unlink decoded committed

theorem linkBatch_paired (paired : s.PairStateLinked) {earlier : Store} {l r : String} {now : Int}
    {ops extra : List Write} (planned : Links.linkOps earlier l r now = .ok ops)
    (outside : ∀ w ∈ extra, w.OutsideLinks) (keeps : ∀ w ∈ extra, w.KeepsPairState r) :
    (s.writeBatch (ops ++ extra)).1.PairStateLinked := by
  rcases writeBatch_cases calm (ops ++ extra) with same | committed
  · rw [same]; exact paired
  · rcases Links.linkOps_cases planned with ⟨rawL, rawR, rfl⟩ | ⟨heldL, heldR, rfl, -, -, -⟩
    · exact paired.confirm outside keeps committed
    · exact paired.newLink outside keeps committed

theorem unlinkBatch_paired (paired : s.PairStateLinked) {earlier : Store} {l : String}
    {ops : List Write} (planned : Links.unlinkOps earlier l = .ok ops) :
    (s.writeBatch ops).1.PairStateLinked := by
  rcases writeBatch_cases calm ops with same | committed
  · rw [same]; exact paired
  · obtain ⟨raw, rec, -, rfl⟩ := Links.unlinkOps_cases planned
    exact paired.unlink committed

end Batches

end Store

namespace LinkStep

variable {allowed : String → Write → Prop} {s s' : Store}

/-- A step keeps the planted faults, so a store with no other writer's write planted keeps
having none. -/
theorem faults_eq (step : LinkStep allowed s s') (calm : s.faults.interference = none) :
    s'.faults = s.faults := by
  cases step with
  | commit l r extra now => exact Links.commitWith_faults calm l r extra now
  | unlink l =>
    rcases Links.unlink_store s l with same | ⟨ops, -, after⟩
    · rw [same]
    · rw [after, Store.writeBatch_faults calm]
  | linkBatch => exact Store.writeBatch_faults calm _
  | unlinkBatch => exact Store.writeBatch_faults calm _

theorem bijective (outside : ∀ remoteId w, allowed remoteId w → w.OutsideLinks)
    (step : LinkStep allowed s s') (calm : s.faults.interference = none) (bij : s.LinksBijective) :
    s'.LinksBijective := by
  cases step with
  | commit l r extra now stamp carried =>
    rcases Links.commitWith_store s l r extra now with same | ⟨ops, planned, after⟩
    · rw [same]; exact bij
    · rw [after]
      exact Store.linkBatch_bijective calm bij planned stamp fun w mem => outside r w (carried w mem)
  | unlink l =>
    rcases Links.unlink_store s l with same | ⟨ops, planned, after⟩
    · rw [same]; exact bij
    · rw [after]
      exact Store.unlinkBatch_bijective calm bij planned
  | linkBatch earlier l r now ops extra planned stamp carried =>
    exact Store.linkBatch_bijective calm bij planned stamp fun w mem => outside r w (carried w mem)
  | unlinkBatch earlier l ops planned => exact Store.unlinkBatch_bijective calm bij planned

theorem paired (outside : ∀ remoteId w, allowed remoteId w → w.OutsideLinks)
    (keeps : ∀ remoteId w, allowed remoteId w → w.KeepsPairState remoteId)
    (step : LinkStep allowed s s') (calm : s.faults.interference = none)
    (paired : s.PairStateLinked) : s'.PairStateLinked := by
  cases step with
  | commit l r extra now stamp carried =>
    rcases Links.commitWith_store s l r extra now with same | ⟨ops, planned, after⟩
    · rw [same]; exact paired
    · rw [after]
      exact Store.linkBatch_paired calm paired planned (fun w mem => outside r w (carried w mem))
        fun w mem => keeps r w (carried w mem)
  | unlink l =>
    rcases Links.unlink_store s l with same | ⟨ops, planned, after⟩
    · rw [same]; exact paired
    · rw [after]
      exact Store.unlinkBatch_paired calm paired planned
  | linkBatch earlier l r now ops extra planned stamp carried =>
    exact Store.linkBatch_paired calm paired planned (fun w mem => outside r w (carried w mem))
      fun w mem => keeps r w (carried w mem)
  | unlinkBatch earlier l ops planned => exact Store.unlinkBatch_paired calm paired planned

end LinkStep

section Runs

variable {allowed : String → Write → Prop} {s s' : Store}

theorem LinkStep.run_calm (run : Relation.ReflTransGen (LinkStep allowed) s s')
    (calm : s.faults.interference = none) : s'.faults.interference = none := by
  induction run with
  | refl => exact calm
  | tail _ step ih => rw [step.faults_eq ih]; exact ih

theorem LinkStep.run_bijective (outside : ∀ remoteId w, allowed remoteId w → w.OutsideLinks)
    (run : Relation.ReflTransGen (LinkStep allowed) s s') (calm : s.faults.interference = none)
    (start : s.LinksBijective) : s'.LinksBijective := by
  induction run with
  | refl => exact start
  | tail before step ih => exact step.bijective outside (LinkStep.run_calm before calm) ih

theorem LinkStep.run_paired (outside : ∀ remoteId w, allowed remoteId w → w.OutsideLinks)
    (keeps : ∀ remoteId w, allowed remoteId w → w.KeepsPairState remoteId)
    (run : Relation.ReflTransGen (LinkStep allowed) s s') (calm : s.faults.interference = none)
    (start : s.PairStateLinked) : s'.PairStateLinked := by
  induction run with
  | refl => exact start
  | tail before step ih => exact step.paired outside keeps (LinkStep.run_calm before calm) ih

end Runs

/-- Writers sharing a link table through one store keep it a bijection, a failed step leaves the
store as it was, and no remote id keeps sync state without a link. -/
theorem links_stay_bijective {allowed : String → Write → Prop}
    (outside : ∀ remoteId w, allowed remoteId w → w.OutsideLinks) {s s' : Store}
    (start : s.LinksBijective) (calm : s.faults.interference = none)
    (run : Relation.ReflTransGen (LinkStep allowed) s s') :
    s'.LinksBijective ∧
      ((∀ remoteId w, allowed remoteId w → w.KeepsPairState remoteId) →
        s.PairStateLinked → s'.PairStateLinked) ∧
      (∀ localId remoteId extra now e,
        (Links.commitWith s' localId remoteId extra now).2 = .error e →
          (Links.commitWith s' localId remoteId extra now).1 = s') ∧
      (∀ localId e, (Links.unlink s' localId).2 = .error e → (Links.unlink s' localId).1 = s') ∧
      (∀ ws e, (s'.writeBatch ws).2 = some e → (s'.writeBatch ws).1 = s') := by
  have calm' := LinkStep.run_calm run calm
  exact ⟨LinkStep.run_bijective outside run calm start,
    fun keeps paired => LinkStep.run_paired outside keeps run calm paired,
    fun _ _ _ _ _ failed => Links.commitWith_failed calm' failed,
    fun _ _ failed => Links.unlink_failed calm' failed,
    fun ws _ failed => Store.writeBatch_failed calm' ws failed⟩

theorem links_stay_bijective_through_link_and_unlink :
    ({} : Store).LinksBijective ∧ ({} : Store).faults.interference = none ∧
      Relation.ReflTransGen (LinkStep fun _ w => w.OutsideLinks) {}
        (Links.unlink (Links.link {} "L1" "7" 0).1 "L1").1 ∧
      ((Links.unlink (Links.link {} "L1" "7" 0).1 "L1").1.LinksBijective ∧
        ((∀ remoteId (w : Write), w.OutsideLinks → w.KeepsPairState remoteId) →
          ({} : Store).PairStateLinked →
            (Links.unlink (Links.link {} "L1" "7" 0).1 "L1").1.PairStateLinked) ∧
        (∀ localId remoteId extra now e,
          (Links.commitWith (Links.unlink (Links.link {} "L1" "7" 0).1 "L1").1 localId remoteId
            extra now).2 = .error e →
            (Links.commitWith (Links.unlink (Links.link {} "L1" "7" 0).1 "L1").1 localId remoteId
              extra now).1 = (Links.unlink (Links.link {} "L1" "7" 0).1 "L1").1) ∧
        (∀ localId e, (Links.unlink (Links.unlink (Links.link {} "L1" "7" 0).1 "L1").1 localId).2 =
            .error e →
          (Links.unlink (Links.unlink (Links.link {} "L1" "7" 0).1 "L1").1 localId).1 =
            (Links.unlink (Links.link {} "L1" "7" 0).1 "L1").1) ∧
        (∀ ws e, ((Links.unlink (Links.link {} "L1" "7" 0).1 "L1").1.writeBatch ws).2 = some e →
          ((Links.unlink (Links.link {} "L1" "7" 0).1 "L1").1.writeBatch ws).1 =
            (Links.unlink (Links.link {} "L1" "7" 0).1 "L1").1)) := by
  have start : ({} : Store).LinksBijective :=
    ⟨fun _ _ held => (by cases held), fun _ _ held => (by cases held)⟩
  have stamp : LinkRecord.StampFits 0 := by unfold LinkRecord.StampFits; omega
  have run : Relation.ReflTransGen (LinkStep fun _ w => w.OutsideLinks) {}
      (Links.unlink (Links.link {} "L1" "7" 0).1 "L1").1 :=
    .tail (.single (LinkStep.commit {} "L1" "7" [] 0 stamp (by simp))) (LinkStep.unlink _ "L1")
  exact ⟨start, rfl, run, links_stay_bijective (fun _ _ outside => outside) start rfl run⟩

end TrackerSync
