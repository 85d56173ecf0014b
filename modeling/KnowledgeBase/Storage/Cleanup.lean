import KnowledgeBase.Serving.System
import KnowledgeBase.Storage.References

/-!
# Deletion and cleanup

What follows the deletion of an Item: the lifecycle command releases the references of the Item, a cleanup job runs its
substrates in their order in one transaction up to the first that blocks, and is resumed later from there.
-/

namespace KnowledgeBase

open Checked Relational Serving

abbrev CleanupJobId := Nat

/-- `CleanupJobService._SUBSTRATES`. -/
inductive CleanupSubstrate
  | intakeArtifact | derivedGeneration | vectorProjection | objectReference | objectGc
deriving DecidableEq

def cleanupSubstrates : List CleanupSubstrate :=
  [.intakeArtifact, .derivedGeneration, .vectorProjection, .objectReference, .objectGc]

inductive CleanupStepState
  | pending | blocked | completed | failed
deriving DecidableEq

inductive CleanupJobState
  | pending | blocked | running | completed | failed
deriving DecidableEq

structure CleanupStepRow where
  substrate : CleanupSubstrate
  state : CleanupStepState
  blockedReason : Option String
deriving DecidableEq

/-- A row of `mkb_cleanup_jobs` with its steps by ordinal. -/
structure CleanupJobRow where
  job : CleanupJobId
  team : TeamId
  item : ItemId
  retentionUntil : Time
  state : CleanupJobState
  blockedReason : Option String
  rowRevision : Nat
  steps : List CleanupStepRow
deriving DecidableEq

def CleanupJobRow.isRunnable (j : CleanupJobRow) : Bool :=
  j.state == .pending || j.state == .failed || j.state == .blocked

/-- The reason of the step that blocked. -/
def blockedReasonOf (steps : List CleanupStepRow) : String :=
  ((steps.find? (·.state == .blocked)).bind (·.blockedReason)).getD "hold"

/-- The job row as `_run_job` leaves it. -/
def CleanupJobRow.settle (steps : List CleanupStepRow) (blocked : Bool) (j : CleanupJobRow) : CleanupJobRow :=
  { j with
    steps := steps
    rowRevision := j.rowRevision + 2
    state := if blocked then .blocked else if steps.all (·.state == .completed) then .completed else .failed
    blockedReason := if blocked then some (blockedReasonOf steps) else j.blockedReason }

/-- The Item a row of `mkb_generation_artifacts` is of. -/
structure GenerationArtifactOwner where
  team : TeamId
  artifact : ArtifactId
  item : ItemId
deriving DecidableEq

/-- The Item a row of `mkb_intake_revisions` is of. -/
structure RevisionOwner where
  team : TeamId
  revision : RevisionId
  item : ItemId
deriving DecidableEq

/-- The serving tables with the owners, the references and the cleanup jobs. -/
structure Substrates where
  serving : Serving
  artifacts : List GenerationArtifactOwner
  revisions : List RevisionOwner
  references : List ReferenceRow
  jobs : List CleanupJobRow

def Substrates.empty : Substrates := ⟨.empty, [], [], [], []⟩

namespace Substrates

/-! ### the lifecycle command -/

def isOwnedBy (team : TeamId) (owner : OwnerId) (r : ReferenceRow) : Bool := r.team == team && r.owner == owner

/-- What `apply_tx` does to the references: a delete releases those of the Item. -/
def releaseForLifecycle (c : LifecycleCommand) (references : List ReferenceRow) : List ReferenceRow :=
  if c.action == .delete then releaseWhere (isOwnedBy c.team (.item c.item)) c.now references else references

/-- `apply_tx`, with the references. -/
def applyLifecycle (c : LifecycleCommand) (s : Substrates) : Except MkbError Substrates := do
  let i ← required (s.serving.item? c.team c.item) (notFoundError "intake-item-not-found" "Intake item was not found")
  if s.serving.hasTransition c.team c.item (.lifecycle c.item c.action c.idempotencyKey) then return s
  else
    failIf (c.expectedItemRevision.getD i.rowRevision != i.rowRevision)
      (conflictError "intake-item-revision-conflict" "Intake item revision is stale")
    match ← targetState c.action i.lifecycleState with
    | none => return s
    | some target =>
      let serving ← s.serving.applyTransition c i target
      return { s with serving := serving, references := releaseForLifecycle c s.references }

/-! ### the steps of a job -/

def isSnapshotOf (s : Serving) (team : TeamId) (item : ItemId) (r : ReferenceRow) : Bool :=
  s.memberships.any fun m => m.team == team && m.item == item && r.owner == .snapshot m.snapshot

def isArtifactOf (s : Substrates) (team : TeamId) (item : ItemId) (r : ReferenceRow) : Bool :=
  s.artifacts.any fun a => a.team == team && a.item == item && r.owner == .generationArtifact a.artifact

/-- The references a substrate selects. -/
def releases (s : Substrates) (j : CleanupJobRow) (k : CleanupSubstrate) (r : ReferenceRow) : Bool :=
  match k with
  | .objectReference => isOwnedBy j.team (.item j.item) r && !r.purpose.isHold
  | .intakeArtifact => r.team == j.team && isSnapshotOf s.serving j.team j.item r
  | .derivedGeneration => r.team == j.team && r.ownerKind == .generationArtifact && s.isArtifactOf j.team j.item r
  | .vectorProjection | .objectGc => false

/-- A live hold of the Item. -/
def hasItemHold (s : Substrates) (team : TeamId) (item : ItemId) : Bool :=
  s.references.any fun r => isOwnedBy team (.item item) r && r.isLiveHold

/-- `_run_step_tx`: the effect of a substrate, and the step as it ends. -/
def runStep (j : CleanupJobRow) (now : Time) (s : Substrates) (k : CleanupStepRow) : Substrates × CleanupStepRow :=
  if k.substrate == .objectReference && s.hasItemHold j.team j.item then
    (s, { k with state := .blocked, blockedReason := some "cleanup_hold_active" })
  else
    let serving := if k.substrate == .vectorProjection then
      { s.serving with
        records := updateWhere (fun r => r.team == j.team && r.item == j.item) (VectorRecordRow.erase now) s.serving.records }
      else s.serving
    ({ s with serving := serving, references := releaseWhere (s.releases j k.substrate) now s.references },
      { k with state := .completed })

/-- The loop of `_run_job`: completed steps are kept, and a step that blocks ends it. -/
def runSteps (j : CleanupJobRow) (now : Time) : List CleanupStepRow → Substrates → Substrates × List CleanupStepRow × Bool
  | [], s => (s, [], false)
  | k :: ks, s =>
    if k.state == .completed then
      let (s', ks', blocked) := runSteps j now ks s
      (s', k :: ks', blocked)
    else
      let (s₁, k₁) := runStep j now s k
      if k₁.state == .blocked then (s₁, k₁ :: ks, true)
      else
        let (s', ks', blocked) := runSteps j now ks s₁
        (s', k₁ :: ks', blocked)

/-- `_run_job`, of a job that `run_once` has found due. -/
def runJob (job : CleanupJobId) (now : Time) (s : Substrates) : Except MkbError Substrates := do
  let j ← required (s.jobs.find? fun j => j.job == job && j.isRunnable)
    (conflictError "CLEANUP_JOB_FENCE" "Cleanup job changed before execution")
  failIf (decide (now < j.retentionUntil)) noAction
  let (s', steps, blocked) := runSteps j now j.steps s
  return { s' with jobs := updateWhere (fun q => q.job == job) (CleanupJobRow.settle steps blocked) s'.jobs }

/-! ### the jobs -/

/-- `ensure_for_item`, for an Item with an open delete intent; a job of the intent is kept. -/
def ensureForItem (job : CleanupJobId) (team : TeamId) (item : ItemId) (retentionUntil : Time) (s : Substrates) :
    Except MkbError Substrates := do
  failIf (!s.serving.deleteCleanups.contains (team, item)) constraintViolation
  if s.jobs.any (fun j => j.team == team && j.item == item) then return s
  else
    let jobs ← insertUnique CleanupJobRow.job constraintViolation
      ⟨job, team, item, retentionUntil, .pending, none, 0, cleanupSubstrates.map fun k => ⟨k, .pending, none⟩⟩ s.jobs
    return { s with jobs := jobs }

/-- The operator's `cleanup.resume`. -/
def resumeCleanup (team : TeamId) (job : CleanupJobId) (expectedRevision : Nat) (s : Substrates) :
    Except MkbError Substrates := do
  let j ← required (s.jobs.find? fun j => j.team == team && j.job == job)
    (notFoundError "CLEANUP_JOB_NOT_FOUND" "Cleanup job was not found")
  failIf (j.rowRevision != expectedRevision) (conflictError "COMMAND_FENCE_CONFLICT" "Cleanup job revision is stale")
  let jobs ← casWhere (fun q => q.team == team && q.job == job && q.rowRevision == expectedRevision &&
      (q.state == .blocked || q.state == .failed))
    (fun q => { q with state := .pending, blockedReason := none, rowRevision := q.rowRevision + 1 })
    (conflictError "COMMAND_FENCE_CONFLICT" "Cleanup job changed before resume") s.jobs
  return { s with jobs := jobs }

end Substrates

/-! ### the interleaving -/

/-- One transaction on the owners, the references or the jobs; `write` is any writer of the serving tables. -/
inductive CleanupStep
  | write (t : ServingStep)
  | artifact (a : GenerationArtifactOwner)
  | revision (r : RevisionOwner)
  | reference (r : ReferenceRow)
  | ensureForItem (job : CleanupJobId) (team : TeamId) (item : ItemId) (retentionUntil : Time)
  | runJob (job : CleanupJobId) (now : Time)
  | resumeCleanup (team : TeamId) (job : CleanupJobId) (expectedRevision : Nat)

open Substrates

variable (grace : Nat)

def CleanupStep.transact (s : Substrates) : CleanupStep → Except MkbError Substrates
  | .write (.lifecycle c) => s.applyLifecycle c
  | .write t => (t.transact grace s.serving).map fun serving => { s with serving := serving }
  | .artifact a => (insertUnique GenerationArtifactOwner.artifact constraintViolation a s.artifacts).map fun artifacts =>
    { s with artifacts := artifacts }
  | .revision r => (insertUnique RevisionOwner.revision constraintViolation r s.revisions).map fun revisions =>
    { s with revisions := revisions }
  | .reference r => .ok { s with references := s.references ++ [r] }
  | .ensureForItem job team item retentionUntil => s.ensureForItem job team item retentionUntil
  | .runJob job now => s.runJob job now
  | .resumeCleanup team job expectedRevision => s.resumeCleanup team job expectedRevision

/-- A transaction that fails changes nothing. -/
def cleanupStep (s : Substrates) (t : CleanupStep) : Substrates :=
  match t.transact grace s with
  | .ok s' => s'
  | .error _ => s

theorem cleanupStep_cases {s : Substrates} {t : CleanupStep} :
    cleanupStep grace s t = s ∨ t.transact grace s = .ok (cleanupStep grace s t) := by
  unfold cleanupStep
  cases h : t.transact grace s with
  | ok s' => exact .inr rfl
  | error e => exact .inl rfl

theorem cleanupStep_of_ok {s s' : Substrates} {t : CleanupStep} (h : t.transact grace s = .ok s') :
    cleanupStep grace s t = s' := by
  unfold cleanupStep
  rw [h]

end KnowledgeBase
