import KnowledgeBase.Engine.Repair

/-!
# Commands

The commands that reach the runtime from outside the engine: those of the Task surface, which create, prioritise,
cancel, retry and hide a Task, the operator commands on an Execution and on a Process, and the lifecycle commands
of the intake surface on an Item.
-/

namespace KnowledgeBase

/-! ### the Task surface -/

structure TaskCreateRequest where
  team : TeamId
  requestIntent : RequestIntent
  priority : TaskPriority := .normal
  deadlineAt : Option Time := none
  audit : TaskAudit := {}
  workflowRevision : WorkflowRevisionId
  compiledDigest : Digest
  executionRole : ExecutionRole := .root
  domainBindingDigest : Digest := 0
  configSnapshot : Ref := 0
  manifest : Ref := 0
  metadataDisposition : Option MetadataDisposition := none

/-- A row of a Task that is visible on the public surface. -/
def visibleTask (t : TaskId) : Tx TaskRow := do
  orRaise (((← get).tasks.get? t).filter fun task => !task.deleted)
    (notFoundError "task-not-found" "Task was not found")

/-- The root row of a new Task. -/
def TaskCreateRequest.rootRow (request : TaskCreateRequest) (t : TaskId) (e : ExecutionId) : ExecutionRow where
  team := request.team
  task := t
  generation := 1
  root := e
  role := request.executionRole
  workflowRevision := request.workflowRevision
  compiledDigest := request.compiledDigest
  domainBindingDigest := request.domainBindingDigest
  bindingState := .unsealed
  configSnapshot := request.configSnapshot
  manifest := some request.manifest
  metadataDisposition := request.metadataDisposition

def TaskCreateRequest.taskRow (request : TaskCreateRequest) (e : ExecutionId) : TaskRow where
  team := request.team
  requestIntent := request.requestIntent
  priority := request.priority
  deadlineAt := request.deadlineAt
  audit := request.audit
  currentRoot := e

/-- `create`, for a Task that is not a replay. -/
def createTaskTx (d : Deployment) (now : Time) (request : TaskCreateRequest) : Tx TaskId := do
  ofExcept (assertModelCapacityAllowed d request.priority request.requestIntent)
  raiseIf (request.executionRole == .scatterChild)
    ⟨"workflow-root-role-invalid", "Workflow cannot materialize a Task root execution", 503⟩
  let db ← get
  let t := db.tasks.next
  let e := db.executions.next
  set { db with
    tasks := db.tasks.insert (request.taskRow e)
    executions := db.executions.insert (request.rootRow t e) }
  enqueueTx now request.team (.wakeExecution e (some t) (some 1)) (.wakeExecution e)
  pure t

/-- `patch`, of the priority. -/
def patchTaskTx (d : Deployment) (t : TaskId) (expectedRevision : Nat) (priority : Option TaskPriority) : Tx Unit := do
  let task ← visibleTask t
  raiseIf (task.rowRevision != expectedRevision) (conflictError "revision-conflict" "Task revision is stale")
  if priority.any (· != task.priority) then do
    raiseIf (task.status != .queued)
      (conflictError "task-priority-locked" "Task priority is mutable only while queued")
    raiseIf ((← get).processes.any fun _ p => p.task == t)
      (conflictError "task-priority-locked" "Task priority is immutable after Process materialization")
    ofExcept (assertModelCapacityAllowed d (priority.getD task.priority) task.requestIntent)
  let _ ← casTask t (·.rowRevision == expectedRevision) fun row =>
    { row with priority := priority.getD row.priority, rowRevision := row.rowRevision + 1 }

/-- The writes of `cancel` on the tree of a root: every open Execution becomes `cancelling`, every leased Process
is fenced. -/
def cancelTree (now : Time) (root : ExecutionId) (db : Database) : Database :=
  let executions := db.executions.update (fun _ row => row.root == root && !row.status.isTerminal)
    fun _ row => { row with
      status := .cancelling
      cancelRequestedAt := row.cancelRequestedAt.or (some now)
      rowRevision := row.rowRevision + 1 }
  let db := { db with executions := executions }
  let processes := db.processes.update
    (fun _ p => (db.executions.get? p.execution).any (·.root == root) && (p.status == .claimed || p.status == .running))
    fun _ p => { p with
      status := .cancelling
      fencingGeneration := p.fencingGeneration + 1
      rowRevision := p.rowRevision + 1 }
  { db with processes := processes }

/-- `cancel`: whether the command was accepted. -/
def cancelTaskTx (now : Time) (t : TaskId) (expectedRevision : Nat) : Tx Bool := do
  let task ← visibleTask t
  raiseIf (task.rowRevision != expectedRevision) (conflictError "revision-conflict" "Task revision is stale")
  if task.status.isTerminal then pure false
  else do
    let updated ← casTask t (fun row => row.rowRevision == expectedRevision && !row.status.isTerminal) fun row =>
      { row with status := .cancelling, cancelRequestedAt := some now, rowRevision := row.rowRevision + 1 }
    raiseIf (!updated) (conflictError "revision-conflict" "Task revision is stale")
    modify (cancelTree now task.currentRoot)
    enqueueTx now task.team (.cancelExecution task.currentRoot t)
      (.cancelExecution task.currentRoot (expectedRevision + 1))
    pure true

/-- The root row of a retry. -/
def retryRoot (e : ExecutionId) (generation : Nat) (previous : ExecutionRow) : ExecutionRow where
  team := previous.team
  task := previous.task
  generation := generation
  root := e
  role := previous.role
  intakeSnapshot := previous.intakeSnapshot
  workflowRevision := previous.workflowRevision
  compiledDigest := previous.compiledDigest
  domainBindingDigest := previous.domainBindingDigest
  bindingState := previous.bindingState
  binding := previous.binding
  configSnapshot := previous.configSnapshot
  manifest := previous.manifest
  metadataDisposition := previous.metadataDisposition

/-- `retry`: whether the command was a replay. -/
def retryTaskTx (d : Deployment) (now : Time) (t : TaskId) (expectedRevision reason : Nat) : Tx Bool := do
  let task ← visibleTask t
  let db ← get
  if db.restarts.any fun _ r => r.task == t && r.expectedRevision == expectedRevision && r.reason == reason then
    pure true
  else do
    raiseIf (task.rowRevision != expectedRevision) (conflictError "revision-conflict" "Task revision is stale")
    raiseIf (!task.status.isTerminal) (conflictError "task-active" "An active Task cannot be retried")
    raiseIf (task.status == .succeeded)
      (conflictError "retry-not-allowed" "Succeeded Task must be rebuilt as a new Task")
    ofExcept (assertModelCapacityAllowed d task.priority task.requestIntent)
    let previous ← orRaise (db.executions.get? task.currentRoot)
      ⟨"execution-missing", "Task current execution is missing", 503⟩
    raiseIf (d.hasConfigSnapshots && !db.facts.acceptedObservations.contains task.currentRoot)
      (conflictError "FULL_REPLAY_INPUT_UNAVAILABLE" "Full retry requires a verified frozen Observation input")
    raiseIf (previous.role == .scatterChild)
      ⟨"workflow-root-role-invalid", "Workflow cannot materialize a Task root execution", 503⟩
    raiseIf (previous.bindingState == .sealed && previous.binding.isNone)
      ⟨"ACTUAL_S05_DIGEST_REQUIRED", "A sealed Execution requires its actual digest", 422⟩
    raiseIf (previous.bindingState != .sealed && previous.binding.isSome)
      ⟨"ACTUAL_S05_DIGEST_INVALID", "An unsealed Execution cannot carry an actual digest", 422⟩
    let e := db.executions.next
    let generation := task.currentGeneration + 1
    let restart : RestartRow := ⟨task.team, t, generation, expectedRevision, reason⟩
    set { db with
      restarts := db.restarts.insert restart
      executions := db.executions.insert (retryRoot e generation previous) }
    let _ ← casTask t (·.rowRevision == expectedRevision) fun row =>
      { row with
        status := .queued
        currentGeneration := generation
        currentRoot := e
        cancelRequestedAt := none
        intakeSnapshot := none
        changeSet := none
        counters := {}
        resultRef := none
        proofRef := none
        errorCode := none
        errorMessage := none
        startedAt := none
        completedAt := none
        rowRevision := row.rowRevision + 1 }
    enqueueTx now task.team (.wakeExecution e (some t) (some generation)) (.wakeExecution e)
    pure false

/-- `soft_delete`. -/
def softDeleteTaskTx (t : TaskId) (expectedRevision : Nat) : Tx Unit := do
  let task ← orRaise ((← get).tasks.get? t) (notFoundError "task-not-found" "Task was not found")
  raiseIf (task.rowRevision != expectedRevision) (conflictError "revision-conflict" "Task revision is stale")
  raiseIf (!task.status.isTerminal)
    (conflictError "task-active" "Active Task must be cancelled before soft-delete")
  if task.deleted then pure ()
  else do
    let _ ← casTask t (·.rowRevision == expectedRevision) fun row =>
      { row with deleted := true, rowRevision := row.rowRevision + 1 }

/-! ### the operator -/

structure OperatorCommand where
  team : TeamId
  expectedGeneration : Nat
  idempotencyKey : Nat

def Database.receipt? (db : Database) (c : OperatorCommand) (kind : CommandKind) (target : Nat) : Option ReceiptRow :=
  ((db.receipts.select fun _ r => r.team == c.team && r.command == kind && r.target == target &&
    r.idempotencyKey == c.idempotencyKey).head?).map (·.2)

/-- `_receipt_tx`. -/
def receiptTx (c : OperatorCommand) (kind : CommandKind) (target : Nat) : Tx Unit :=
  modify fun db => { db with receipts := db.receipts.insert ⟨c.team, kind, target, c.idempotencyKey, target⟩ }

/-- `stop_execution`: whether the command was applied. -/
def stopExecutionTx (now : Time) (e : ExecutionId) (c : OperatorCommand) : Tx Bool := do
  raiseIf (c.expectedGeneration < 1) ⟨"COMMAND_FENCE_CONFLICT", "Execution command coordinates are invalid", 422⟩
  let db ← get
  if (db.receipt? c .executionStop e).isSome then pure false
  else do
    let row ← orRaise ((db.executions.get? e).filter (·.team == c.team))
      ⟨"EXECUTION_NOT_FOUND", "Execution was not found", 404⟩
    raiseIf (row.generation != c.expectedGeneration)
      ⟨"COMMAND_FENCE_CONFLICT", "Execution generation is stale", 409⟩
    raiseIf row.status.isTerminal
      ⟨"CONTROL_TERMINAL_IMMUTABLE", "Terminal execution cannot be stopped", 409⟩
    let _ ← execution row.root
    let _ ← cancelExecutionTreeTx now row.root true
    receiptTx c .executionStop e
    pure true

/-- The write of `restart_process`: tells whether the row was updated. -/
def fenceRestartTx (p : ProcessId) (fence : Nat) : Tx Bool :=
  casProcess p (fun r => r.fencingGeneration == fence &&
      (r.status == .claimed || r.status == .running || r.status == .retryWait)) fun r =>
    { r with
      status := .ready
      claimToken := none
      leaseOwner := none
      leaseExpiresAt := none
      heartbeatAt := none
      fencingGeneration := r.fencingGeneration + 1
      rowRevision := r.rowRevision + 1 }

/-- `restart_process`: whether the command was applied. -/
def restartProcessTx (now : Time) (p : ProcessId) (c : OperatorCommand) : Tx Bool := do
  let db ← get
  if (db.receipt? c .processRestart p).isSome then pure false
  else do
    let process ← orRaise ((db.processes.get? p).filter (·.team == c.team))
      ⟨"PROCESS_NOT_FOUND", "Process was not found", 404⟩
    raiseIf (process.fencingGeneration != c.expectedGeneration)
      ⟨"COMMAND_FENCE_CONFLICT", "Process generation is stale", 409⟩
    raiseIf process.status.isTerminal
      ⟨"CONTROL_TERMINAL_IMMUTABLE", "Terminal process cannot be restarted in place", 409⟩
    let updated ← fenceRestartTx p c.expectedGeneration
    raiseIf (!updated) ⟨"COMMAND_FENCE_CONFLICT", "Process changed before restart", 409⟩
    enqueueTx now c.team (.wakeProcess process.execution p) (.operatorRestart p (c.expectedGeneration + 1))
    receiptTx c .processRestart p
    pure true

/-! ### the intake surface -/

inductive LifecycleAction
  | deactivate | reactivate | delete
  deriving DecidableEq

/-- `_target_state`: the state a transition leads to, `none` for an honest no-op. -/
def LifecycleAction.target (action : LifecycleAction) (current : IntakeLifecycle) :
    Except MkbError (Option IntakeLifecycle) :=
  match action, current with
  | .deactivate, .active => .ok (some .deactivated)
  | .deactivate, .deactivated => .ok none
  | .deactivate, .deleted => .error (conflictError "intake-item-deleted" "Deleted Intake items cannot be deactivated")
  | .reactivate, .deactivated => .ok (some .active)
  | .reactivate, .active => .ok none
  | .reactivate, .deleted => .error (conflictError "intake-item-deleted" "Deleted Intake items cannot be reactivated")
  | .delete, .deleted => .ok none
  | .delete, _ => .ok (some .deleted)

/-- An Item after a lifecycle transition. -/
def IntakeItemRow.transition (now : Time) (target : IntakeLifecycle) (item : IntakeItemRow) : IntakeItemRow :=
  { item with
    lifecycleState := target
    servingRevision := none
    deactivatedAt := match target with
      | .active => none
      | .deactivated => some now
      | .deleted => item.deactivatedAt
    rowRevision := item.rowRevision + 1 }

/-- `apply_tx` of a lifecycle command: whether it was applied. -/
def applyLifecycleTx (now : Time) (item : ItemId) (action : LifecycleAction) (expectedRevision : Option Nat) :
    Tx Bool := do
  let db ← get
  let row ← orRaise (db.facts.items.get? item) (notFoundError "intake-item-not-found" "Intake item was not found")
  raiseIf (expectedRevision.any (· != row.rowRevision))
    (conflictError "intake-item-revision-conflict" "Intake item revision is stale")
  match ← ofExcept (action.target row.lifecycleState) with
  | none => pure false
  | some target => do
    let items := db.facts.items.modify item (IntakeItemRow.transition now target)
    set { db with facts := { db.facts with items := items } }
    pure true

end KnowledgeBase
