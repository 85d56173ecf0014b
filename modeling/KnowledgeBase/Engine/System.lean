import KnowledgeBase.Library.Run
import KnowledgeBase.Engine.Commands

/-!
# The system

The operations of the running system, each one transaction or a fixed sequence of them, and the step a run takes
under one of them. A transaction that raises leaves the database as it was. The time of an operation, the content
of an outcome, what its committer writes, and the order of the operations are those of the environment.
-/

namespace KnowledgeBase

open Transaction

inductive Operation
  -- workers
  | claimNext (request : ClaimRequest)
  | markRunning (p : ProcessId) (fence : Nat)
  | heartbeat (p : ProcessId) (fence leaseSeconds : Nat)
  | acceptOutcome (outcome : ProcessOutcome) (commit : Option OutcomeCommit) (jitter : Nat)
  -- the scheduler
  | promoteDueRetries (limit : Nat)
  | recoverExpiredLeases (limit : Nat)
  | requestCancellation (e : ExecutionId)
  | materializeRoot (e : ExecutionId)
  | consumeGateDecision (decision : DecisionId)
  | leaseOutbox (token leaseSeconds : Nat)
  | dispatchDelivery (o : OutboxId) (vectorizeIntentValid : Bool)
  | completeOutbox (o : OutboxId) (token : Nat)
  | releaseOutbox (o : OutboxId) (token : Nat) (error : String)
  | repairOnce
  | evaluateCleanupEligibility (limit : Nat)
  -- the Task surface
  | createTask (request : TaskCreateRequest)
  | patchTask (t : TaskId) (expectedRevision : Nat) (priority : Option TaskPriority)
  | cancelTask (t : TaskId) (expectedRevision : Nat)
  | retryTask (t : TaskId) (expectedRevision reason : Nat)
  | softDeleteTask (t : TaskId) (expectedRevision : Nat)
  | decideGate (request : GateDecisionRequest)
  -- the operator
  | stopExecution (e : ExecutionId) (command : OperatorCommand)
  | restartProcess (p : ProcessId) (command : OperatorCommand)
  | requeueDeadOutbox (o : OutboxId) (expectedGeneration idempotencyKey : Nat)
  -- the intake surface
  | applyLifecycle (item : ItemId) (action : LifecycleAction) (expectedRevision : Option Nat)
  | writeFacts (write : IntakeFacts → Except MkbError IntakeFacts)

/-- An operation at a time. -/
structure Event where
  now : Time
  operation : Operation

section step

variable (d : Deployment) (now : Time)

/-- The handler of a leased delivery: the transaction it runs. -/
def handleDeliveryTx (o : OutboxId) (vectorizeIntentValid : Bool) : Tx Unit := do
  match ((← get).outbox.get? o).filter fun row => 0 < row.attempts with
  | none => pure ()
  | some row =>
    match row.payload with
    | .wakeExecution e _ _ => do
      let _ ← materializeRootTx d now e
    | .wakeProcess _ _ => pure ()
    | .cancelExecution e _ => do
      let _ ← requestCancellationTx now e
    | .gateDecision decision _ _ => do
      let _ ← consumeGateDecisionTx d now decision
    | .vectorizeConstruct _ _ _ =>
      raiseIf (!vectorizeIntentValid) (conflictError "vectorize-construct-generation-mismatch"
        "Construction handoff no longer matches its current full-valid generation member")

/-- `claim_next`: the promotion of due retries, then the claim. -/
def claimNext (request : ClaimRequest) (db : Database) : Database :=
  (claimNextTx d now request).commit ((promoteDueRetriesTx now 64).commit db)

/-- What `claim_next` returns. -/
def claimNextResult (request : ClaimRequest) (db : Database) : Option ClaimedProcess :=
  ((claimNextTx d now request).result? ((promoteDueRetriesTx now 64).commit db)).bind id

/-- The database after `repair_once`, which stops at the first transaction that raises. -/
def repairOnce (db : Database) : Database :=
  match (promoteDueRetriesTx now 128).run db with
  | .error _ => db
  | .ok (_, db) =>
    match (recoverExpiredLeasesTx d now 128).run db with
    | .error _ => db
    | .ok (_, db) => (repairScanTx d now).commit db

/-- The step of the system under one operation. -/
def Operation.step (db : Database) : Operation → Database
  | claimNext request => KnowledgeBase.claimNext d now request db
  | markRunning p fence => (markRunningTx now p fence).commit db
  | heartbeat p fence leaseSeconds => (heartbeatTx now p fence leaseSeconds).commit db
  | acceptOutcome outcome commit jitter => (acceptOutcomeTx d now outcome commit jitter).commit db
  | promoteDueRetries limit => (promoteDueRetriesTx now limit).commit db
  | recoverExpiredLeases limit => (recoverExpiredLeasesTx d now limit).commit db
  | requestCancellation e => (requestCancellationTx now e).commit db
  | materializeRoot e => (materializeRootTx d now e).commit db
  | consumeGateDecision decision => (consumeGateDecisionTx d now decision).commit db
  | leaseOutbox token leaseSeconds => (leaseOutboxRowTx now token leaseSeconds).commit db
  | dispatchDelivery o valid => (handleDeliveryTx d now o valid).commit db
  | completeOutbox o token => (completeOutboxTx o token).commit db
  | releaseOutbox o token error => (releaseOutboxTx now o token error).commit db
  | repairOnce => KnowledgeBase.repairOnce d now db
  | evaluateCleanupEligibility limit => (evaluateCleanupEligibilityTx d now limit).commit db
  | createTask request => (createTaskTx d now request).commit db
  | patchTask t expectedRevision priority => (patchTaskTx d t expectedRevision priority).commit db
  | cancelTask t expectedRevision => (cancelTaskTx now t expectedRevision).commit db
  | retryTask t expectedRevision reason => (retryTaskTx d now t expectedRevision reason).commit db
  | softDeleteTask t expectedRevision => (softDeleteTaskTx t expectedRevision).commit db
  | decideGate request => (decideGateTx d now request).commit db
  | stopExecution e command => (stopExecutionTx now e command).commit db
  | restartProcess p command => (restartProcessTx now p command).commit db
  | requeueDeadOutbox o expectedGeneration idempotencyKey =>
    (requeueDeadOutboxTx now o expectedGeneration idempotencyKey).commit db
  | applyLifecycle item action expectedRevision => (applyLifecycleTx now item action expectedRevision).commit db
  | writeFacts write => (writeFactsTx write).commit db

end step

/-- The step of the system under one event. -/
def systemStep (d : Deployment) (db : Database) (event : Event) : Database :=
  event.operation.step d event.now db

/-- A database the system can reach from an empty one. -/
def Reachable (d : Deployment) (db : Database) : Prop :=
  ∃ events : List Event, runFrom (systemStep d) Database.empty events = db

/-! ### a deployment of one workflow -/

def sampleProcessStep (stepKey processKey : String) : WorkflowStepDefinition where
  stepKey := stepKey
  stepKind := .process
  processKey := some processKey
  contractVersion := some "v1"
  requiredProofKind := some "proof"
  outputPorts := [{ slotName := "output" }]

def sampleTerminalStep (stepKey : String) (kind : WorkflowTerminalKind) : WorkflowStepDefinition where
  stepKey := stepKey
  stepKind := .terminal
  hasPhase := false
  terminalKind := some kind

def sampleRoute (routeKey fromStepKey toStepKey : String) (kind : WorkflowRouteKind) (selector : WorkflowOutcomeSelector) :
    WorkflowRouteDefinition where
  routeKey := routeKey
  fromStepKey := fromStepKey
  toStepKey := toStepKey
  routeKind := kind
  priority := 0
  outcomeSelector := selector

/-- One Process and its end. -/
def indexRebuildWorkflow : WorkflowDefinition where
  workflowKey := "index.rebuild"
  requiredProcessKeys := ["index.rebuild"]
  steps := [{ stepKey := "start", stepKind := .start, hasPhase := false }, sampleProcessStep "rebuild" "index.rebuild",
    sampleTerminalStep "done" .success, sampleTerminalStep "failed" .failure]
  routes := [sampleRoute "begin" "start" "rebuild" .normal .always, sampleRoute "succeed" "rebuild" "done" .terminal .succeeded,
    sampleRoute "fail" "rebuild" "failed" .terminal .failed, sampleRoute "cancel" "rebuild" "failed" .terminal .cancelled]

theorem validateDefinition_indexRebuild : indexRebuildWorkflow.validateDefinition = .ok () := by decide +kernel

def sampleDeployment : Deployment where
  plans := [(7, ⟨indexRebuildWorkflow, validateDefinition_indexRebuild⟩)]
  activeWorkflowKeys := ["index.rebuild"]
  revisions := [(1, ⟨7, "index.rebuild", .root, ["start", "rebuild", "done", "failed"]⟩)]

/-- A Task created, its root woken and its Process claimed. -/
def sampleClaim : List Event :=
  [⟨1, .createTask { team := 0, requestIntent := .indexRebuild, workflowRevision := 1, compiledDigest := 7 }⟩,
    ⟨2, .leaseOutbox 1 30⟩, ⟨3, .dispatchDelivery 0 true⟩, ⟨4, .completeOutbox 0 1⟩,
    ⟨5, .claimNext { leaseOwner := "worker", token := 9 }⟩]

end KnowledgeBase
