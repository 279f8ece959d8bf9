import TrackerSync.Snapshot.Basic
import TrackerSync.Text.Case

/-!
Three-way detection: each comparable field is judged from its base, local and remote values
as unchanged, local only, remote only, converged or conflict; without a base the pair is seeded.
-/

namespace TrackerSync

/-- How a pair that was never synced is seeded when both sides hold different values. -/
inductive SeedPolicy where
  /-- The local value wins and is pushed; the remote only fills empty local fields. -/
  | fillEmptyLocal
  /-- The remote value wins. -/
  | preferRemote
  deriving BEq, DecidableEq, Repr, Inhabited

namespace SeedPolicy

def name : SeedPolicy → String
  | .fillEmptyLocal => "fill_empty_local"
  | .preferRemote => "prefer_remote"

/-- A policy from its name or short name, in any case, with `-` for `_`. -/
def parse (s : String) : Except String SeedPolicy :=
  match (Text.lower s).replace "-" "_" with
  | "fill_empty_local" | "fill" => .ok .fillEmptyLocal
  | "prefer_remote" | "remote" => .ok .preferRemote
  | _ => .error ("Unknown seed policy: " ++ s)

end SeedPolicy

/-- Which side receives a value. -/
inductive Direction where
  | toLocal
  | toRemote
  deriving BEq, DecidableEq, Repr, Inhabited

def Direction.name : Direction → String
  | .toLocal => "to_local"
  | .toRemote => "to_remote"

/-- The verdict on one field. -/
inductive Verdict where
  | unchanged
  | localOnly
  | remoteOnly
  | converged
  | conflict
  deriving BEq, DecidableEq, Repr, Inhabited

def Verdict.name : Verdict → String
  | .unchanged => "unchanged"
  | .localOnly => "local_only"
  | .remoteOnly => "remote_only"
  | .converged => "converged"
  | .conflict => "conflict"

/-- Where an entity stands after detection. -/
inductive Standing where
  /-- Nothing to apply. -/
  | clean
  /-- One-sided changes only. -/
  | oneSided
  /-- Some field changed differently on both sides. -/
  | conflicted
  deriving BEq, DecidableEq, Repr, Inhabited

def Standing.name : Standing → String
  | .clean => "clean"
  | .oneSided => "partial"
  | .conflicted => "conflicted"

/-- A value to write to one side. -/
structure FieldChange where
  field : Field
  direction : Direction
  value : FieldValue
  deriving BEq, DecidableEq, Repr, Inhabited

/-- A field that changed differently on both sides. -/
structure ConflictRecord where
  field : Field
  localValue : FieldValue
  remoteValue : FieldValue
  baseValue : FieldValue
  deriving BEq, DecidableEq, Repr, Inhabited

/-- The verdict on one field with the values it was made from. -/
structure FieldVerdict where
  field : Field
  verdict : Verdict
  baseValue : FieldValue
  localValue : FieldValue
  remoteValue : FieldValue
  deriving BEq, DecidableEq, Repr

/-- The seed decision for one field; no direction when both sides agree. -/
structure SeedField where
  field : Field
  localValue : FieldValue
  remoteValue : FieldValue
  direction : Option Direction
  deriving BEq, DecidableEq, Repr

/-- The outcome of comparing one entity. -/
inductive Detection where
  | seed (fields : List SeedField)
  | classified (verdicts : List FieldVerdict)
  deriving BEq, DecidableEq, Repr

/-- The verdict on a field from its base, local and remote values. -/
def classify (b l r : FieldValue) : Verdict :=
  if b == l then (if b == r then .unchanged else .remoteOnly)
  else if b == r then .localOnly
  else if l == r then .converged
  else .conflict

def seedDirection (policy : SeedPolicy) (l r : FieldValue) : Option Direction :=
  if l == r then none
  else if l.isEmpty then some .toLocal
  else if r.isEmpty then some .toRemote
  else
    match policy with
    | .fillEmptyLocal => some .toRemote
    | .preferRemote => some .toLocal

/-- Compare a local and a remote snapshot, against a base when there is one. -/
def detect (policy : SeedPolicy) (base : Option Snapshot) (loc rem : Snapshot) : Detection :=
  match base with
  | none =>
    .seed (Field.all.map fun f =>
      ⟨f, loc.get f, rem.get f, seedDirection policy (loc.get f) (rem.get f)⟩)
  | some b =>
    .classified (Field.all.map fun f =>
      ⟨f, classify (b.get f) (loc.get f) (rem.get f), b.get f, loc.get f, rem.get f⟩)

def SeedField.change? (f : SeedField) : Option FieldChange :=
  f.direction.map fun d =>
    ⟨f.field, d, match d with
      | .toLocal => f.remoteValue
      | .toRemote => f.localValue⟩

def FieldVerdict.change? (v : FieldVerdict) : Option FieldChange :=
  match v.verdict with
  | .localOnly => some ⟨v.field, .toRemote, v.localValue⟩
  | .remoteOnly => some ⟨v.field, .toLocal, v.remoteValue⟩
  | _ => none

def FieldVerdict.conflict? (v : FieldVerdict) : Option ConflictRecord :=
  if v.verdict == .conflict then some ⟨v.field, v.localValue, v.remoteValue, v.baseValue⟩ else none

def SeedField.agreed (f : SeedField) : FieldValue :=
  match f.direction with
  | some .toRemote => f.localValue
  | _ => f.remoteValue

def FieldVerdict.agreed (v : FieldVerdict) : FieldValue :=
  match v.verdict with
  | .remoteOnly => v.remoteValue
  | .conflict => v.baseValue
  | _ => v.localValue

namespace Detection

def isSeed : Detection → Bool
  | .seed _ => true
  | .classified _ => false

/-- The standing of a verdict list: any conflict, else any one-sided change, else clean. -/
def standingOf (verdicts : List FieldVerdict) : Standing :=
  if verdicts.any (·.verdict == .conflict) then .conflicted
  else if verdicts.any (fun v => v.verdict == .localOnly || v.verdict == .remoteOnly) then .oneSided
  else .clean

def standing : Detection → Standing
  | .seed fields => if fields.any (·.direction.isSome) then .oneSided else .clean
  | .classified verdicts => standingOf verdicts

def changes : Detection → List FieldChange
  | .seed fields => fields.filterMap SeedField.change?
  | .classified verdicts => verdicts.filterMap FieldVerdict.change?

def conflicts : Detection → List ConflictRecord
  | .seed _ => []
  | .classified verdicts => verdicts.filterMap FieldVerdict.conflict?

/-- The base to store once the changes are applied, starting from the remote snapshot. -/
def nextBase (d : Detection) (remote : Snapshot) : Snapshot :=
  match d with
  | .seed fields => fields.foldl (fun s f => s.set f.field f.agreed) remote
  | .classified verdicts => verdicts.foldl (fun s v => s.set v.field v.agreed) remote

end Detection

end TrackerSync
