import KnowledgeBase.Engine.Projection

/-!
# Outcome commits

What the owners of the intake and generation catalogues write inside the transaction of an accepted outcome. Their
own tables are the intake facts; of the runtime tables they write the acceptance coordinate of a root and of its
Task, the children of an accepted collection, and outbox rows.
-/

namespace KnowledgeBase

/-! ### the accepted collection -/

structure ScatterMember where
  item : ItemId
  revision : RevisionId
  memberOrdinal : Nat
  childManifest : Ref
  deriving DecidableEq

structure ScatterCollectionAcceptance where
  snapshot : SnapshotId
  changeSet : ChangeSetId
  members : List ScatterMember
  admissionResult : AdmissionResult
  childWorkflow : WorkflowRevisionId
  childCompiledDigest : Digest
  childDomainBindingDigest : Digest := 0
  childConfigSnapshot : Ref := 0
  deriving DecidableEq

/-- The child Execution of one member. -/
def newScatterChild (e : ExecutionId) (root : ExecutionRow) (acceptance : ScatterCollectionAcceptance)
    (member : ScatterMember) : ExecutionRow :=
  let activateNow := acceptance.admissionResult == .autoAdmitted
  { team := root.team
    task := root.task
    generation := root.generation
    root := e
    parent := some e
    role := .scatterChild
    targetKind := .intakeItem
    target := some member.item
    intakeSnapshot := some acceptance.snapshot
    workflowRevision := acceptance.childWorkflow
    compiledDigest := acceptance.childCompiledDigest
    domainBindingDigest := acceptance.childDomainBindingDigest
    bindingState := root.bindingState
    binding := root.binding
    configSnapshot := acceptance.childConfigSnapshot
    status := if activateNow then .ready else .waiting
    waitingReason := if activateNow then none else some .durablePrerequisite
    waitingRef := if activateNow then none else some (.changeSet acceptance.changeSet)
    manifest := some member.childManifest
    manifestRevision := root.manifestRevision
    scatterIntakeRevision := some member.revision
    scatterMemberOrdinal := some member.memberOrdinal
    scatterChangeSet := some acceptance.changeSet }

/-- `_insert_child_execution`. -/
def insertChildExecutionTx (now : Time) (e : ExecutionId) (root : ExecutionRow)
    (acceptance : ScatterCollectionAcceptance) (member : ScatterMember) : Tx Unit := do
  let child := (← get).executions.next
  modify fun db => { db with executions := db.executions.insert (newScatterChild e root acceptance member) }
  if acceptance.admissionResult == .autoAdmitted then
    enqueueTx now root.team (.wakeExecution child (some root.task) (some root.generation)) (.wakeExecution child)

/-- `_assert_child_workflow`. -/
def assertChildWorkflow (d : Deployment) (acceptance : ScatterCollectionAcceptance) : Except MkbError Unit :=
  if (d.revisions.lookup acceptance.childWorkflow).any fun r =>
      r.compiledDigest == acceptance.childCompiledDigest && r.executionRole == .scatterChild then .ok ()
  else .error ⟨"SCATTER_CHILD_WORKFLOW_INVALID", "Frozen child workflow is unavailable", 503⟩

/-- The acceptance coordinate of a collection on its root and on its Task. -/
def bindCollectionTx (e : ExecutionId) (t : TaskId) (acceptance : ScatterCollectionAcceptance) : Tx Unit := do
  let members := acceptance.members.length
  let updated ← casExecution e (·.intakeSnapshot.isNone) fun row =>
    { row with
      targetKind := .intakeSource
      intakeSnapshot := some acceptance.snapshot
      manifestRevision := row.manifestRevision + 1
      childCounters := { row.childCounters with total := members, active := members, succeeded := 0, failed := 0 }
      metadataDisposition := none
      rowRevision := row.rowRevision + 1 }
  raiseIf (!updated) ⟨"INTAKE_SNAPSHOT_EXECUTION_FENCE", "Root Snapshot coordinate changed before acceptance", 409⟩
  let updated ← casTask t (fun task => task.currentRoot == e && task.intakeSnapshot.isNone && task.changeSet.isNone)
    fun task =>
      { task with
        intakeSnapshot := some acceptance.snapshot
        changeSet := some acceptance.changeSet
        counters := ⟨members, members, members, 0, 0, 0⟩
        rowRevision := task.rowRevision + 1 }
  raiseIf (!updated) ⟨"INTAKE_SNAPSHOT_TASK_FENCE", "Task Snapshot coordinate changed before acceptance", 409⟩

/-- The acceptance of a collection on the runtime tables. -/
def acceptCollectionTx (d : Deployment) (now : Time) (e : ExecutionId) (t : TaskId)
    (acceptance : ScatterCollectionAcceptance) : Tx Unit := do
  let root ← orRaise ((← get).executions.get? e)
    ⟨"SCATTER_ROOT_FENCE", "Scatter root is not available for acceptance", 409⟩
  raiseIf (root.status.isTerminal || root.status == .cancelling)
    ⟨"SCATTER_ROOT_FENCE", "Scatter root is not available for acceptance", 409⟩
  raiseIf root.intakeSnapshot.isSome
    ⟨"INTAKE_SNAPSHOT_EXECUTION_FENCE", "Root already has an accepted Snapshot", 409⟩
  raiseIf (root.bindingState != .sealed || root.binding.isNone)
    ⟨"ACTUAL_S05_PROPAGATION_INVALID", "Scatter root actual S05 binding is inconsistent", 409⟩
  ofExcept (assertChildWorkflow d acceptance)
  -- the primary key of the Items the members are inserted as
  raiseIf (!decide (acceptance.members.map (·.item)).Nodup)
    ⟨"IntegrityError", "UNIQUE constraint failed: mkb_intake_items.intake_item_uuid", 500⟩
  bindCollectionTx e t acceptance
  let root ← orRaise ((← get).executions.get? e)
    ⟨"SCATTER_ROOT_FENCE", "Scatter root disappeared during acceptance", 409⟩
  forEach acceptance.members (insertChildExecutionTx now e root acceptance)

/-! ### the single acceptance -/

/-- The acceptance of a single-member Snapshot on the runtime tables. -/
def acceptSnapshotTx (e : ExecutionId) (t : TaskId) (snapshot : SnapshotId) (changeSet : ChangeSetId) : Tx Unit := do
  let updated ← casExecution e (·.intakeSnapshot.isNone) fun row =>
    { row with intakeSnapshot := some snapshot, rowRevision := row.rowRevision + 1 }
  raiseIf (!updated)
    ⟨"INTAKE_SNAPSHOT_EXECUTION_FENCE", "Execution snapshot coordinate changed before acceptance", 409⟩
  let updated ← casTask t (fun task => task.currentRoot == e && task.intakeSnapshot.isNone) fun task =>
    { task with intakeSnapshot := some snapshot, changeSet := some changeSet, rowRevision := task.rowRevision + 1 }
  raiseIf (!updated) ⟨"INTAKE_SNAPSHOT_TASK_FENCE", "Task snapshot coordinate changed before acceptance", 409⟩

/-! ### the commit of an outcome -/

inductive Acceptance
  | snapshot (snapshot : SnapshotId) (changeSet : ChangeSetId)
  | collection (acceptance : ScatterCollectionAcceptance)

/-- The writes of an outcome committer: on its own catalogues, which may refuse them, on the acceptance
coordinates, and on the outbox. -/
structure OutcomeCommit where
  facts : IntakeFacts → Except MkbError IntakeFacts := .ok
  acceptance : Option Acceptance := none
  constructions : List Ref := []
  lifecycleWakes : List (String × ExecutionId × Option TaskId × Nat) := []

def writeFactsTx (write : IntakeFacts → Except MkbError IntakeFacts) : Tx Unit := do
  let db ← get
  let facts ← ofExcept (write db.facts)
  set { db with facts := facts }

/-- `_enqueue_execution_wake_tx`. -/
def enqueueExecutionWakeTx (now : Time) (team : TeamId) (wake : String × ExecutionId × Option TaskId × Nat) :
    Tx Unit :=
  enqueueTx now team (.wakeExecution wake.2.1 wake.2.2.1 none) (.lifecycleWake wake.1 wake.2.1 wake.2.2.2)

/-- `validate_and_commit`, for the Process of an Execution. -/
def validateAndCommitTx (d : Deployment) (now : Time) (e : ExecutionId) (row : ExecutionRow) (commit : OutcomeCommit) :
    Tx Unit := do
  writeFactsTx commit.facts
  match commit.acceptance with
  | none => pure ()
  | some (.snapshot snapshot changeSet) => acceptSnapshotTx e row.task snapshot changeSet
  | some (.collection acceptance) => acceptCollectionTx d now e row.task acceptance
  forEach commit.constructions fun construction =>
    enqueueTx now row.team (.vectorizeConstruct e row.task construction) (.vectorizeConstruct e row.task construction)
  forEach commit.lifecycleWakes (enqueueExecutionWakeTx now row.team)

end KnowledgeBase
