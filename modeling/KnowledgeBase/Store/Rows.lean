import KnowledgeBase.Library.Table
import KnowledgeBase.Workflow.Validation

/-!
# Rows

The rows of the runtime tables. Identifiers are the keys of their tables, in the order of their creation; a time
is a number of microseconds. A digest stands for what it is taken of: equal digests are equal contents.
-/

namespace KnowledgeBase

abbrev TeamId := Nat
abbrev TaskId := Nat
abbrev ExecutionId := Nat
abbrev ProcessId := Nat
abbrev GateId := Nat
abbrev DecisionId := Nat
abbrev OutboxId := Nat
abbrev ItemId := Nat
abbrev RevisionId := Nat
abbrev SnapshotId := Nat
abbrev ChangeSetId := Nat
abbrev WorkflowRevisionId := Nat
abbrev Ref := Nat
abbrev Digest := Nat
abbrev Time := Nat

/-! ### statuses -/

inductive TaskStatus
  | queued | running | cancelling | succeeded | failed | cancelled
  deriving DecidableEq

inductive ExecutionStatus
  | created | ready | running | waiting | succeeded | failed | cancelling | cancelled
  deriving DecidableEq

inductive ProcessStatus
  | ready | claimed | running | retryWait | succeeded | failed | cancelling | cancelled
  deriving DecidableEq

inductive GateStatus
  | opened | released | rejected | superseded
  deriving DecidableEq

inductive OutboxStatus
  | pending | inFlight | done | dead
  deriving DecidableEq

inductive CandidateSetState
  | opened | sealed | accepted | abandoned
  deriving DecidableEq

inductive IntakeLifecycle
  | active | deactivated | deleted
  deriving DecidableEq

/-- `_TERMINAL_EXECUTION_STATUSES`. -/
@[grind =] def ExecutionStatus.isTerminal : ExecutionStatus → Bool
  | .succeeded | .failed | .cancelled => true
  | _ => false

/-- `_TERMINAL_PROCESS_STATUSES`. -/
@[grind =] def ProcessStatus.isTerminal : ProcessStatus → Bool
  | .succeeded | .failed | .cancelled => true
  | _ => false

/-- `_ACTIVE_PROCESS_STATUSES`. -/
@[grind =] def ProcessStatus.isActive : ProcessStatus → Bool
  | .ready | .claimed | .running | .retryWait | .cancelling => true
  | _ => false

@[grind =] def TaskStatus.isTerminal : TaskStatus → Bool
  | .succeeded | .failed | .cancelled => true
  | _ => false

theorem ProcessStatus.isActive_eq_not_isTerminal (s : ProcessStatus) : s.isActive = !s.isTerminal := by
  cases s <;> rfl

/-! ### tasks -/

inductive TaskPriority
  | low | normal | high | urgent
  deriving DecidableEq

/-- `_TASK_PRIORITY_RANK`. -/
def TaskPriority.rank : TaskPriority → Nat
  | .low => 100
  | .normal => 200
  | .high => 300
  | .urgent => 400

inductive ResultDisposition
  | exhaustedZero
  deriving DecidableEq

/-- The media types `_typed_route_context_tx` tells apart. -/
inductive DeclaredMediaType
  | applicationPdf | image | text | applicationJson | other
  deriving DecidableEq

inductive CompressionChannel
  | localInference | nonInteractive
  deriving DecidableEq

/-- The facts the engine reads from the strict payload of a Task's audit envelope. -/
structure TaskAudit where
  cleanStrategy : Option CleanStrategy := none
  acquisitionMode : Option AcquisitionMode := none
  mediaType : Option DeclaredMediaType := none
  markdownPrompt : Bool := false
  compressionChannel : Option CompressionChannel := none
  sourceChars : Nat := 0
  deriving DecidableEq

structure TaskCounters where
  total : Nat := 0
  required : Nat := 0
  active : Nat := 0
  succeeded : Nat := 0
  failed : Nat := 0
  cancelled : Nat := 0
  deriving DecidableEq

structure TaskRow where
  team : TeamId
  requestIntent : RequestIntent
  priority : TaskPriority := .normal
  deadlineAt : Option Time := none
  audit : TaskAudit := {}
  status : TaskStatus := .queued
  rowRevision : Nat := 0
  currentGeneration : Nat := 1
  currentRoot : ExecutionId
  cancelRequestedAt : Option Time := none
  intakeSnapshot : Option SnapshotId := none
  changeSet : Option ChangeSetId := none
  counters : TaskCounters := {}
  resultRef : Option Ref := none
  proofRef : Option Ref := none
  resultDisposition : Option ResultDisposition := none
  errorCode : Option String := none
  errorMessage : Option String := none
  startedAt : Option Time := none
  completedAt : Option Time := none
  deleted : Bool := false
  deriving DecidableEq

/-! ### executions -/

inductive ExecutionRole
  | root | scatterRoot | scatterChild
  deriving DecidableEq

inductive TargetKind
  | task | intakeSource | intakeItem
  deriving DecidableEq

inductive WaitingReason
  | scatterChildren | durablePrerequisite | humanReview | retryDue
  deriving DecidableEq

/-- What a waiting Execution waits on. -/
inductive WaitingRef
  | gate (id : GateId)
  | process (id : ProcessId)
  | changeSet (id : ChangeSetId)
  deriving DecidableEq

/-- The payload whose digest identifies a route decision. -/
structure RouteDecisionPayload where
  workflowKey : String
  workflowRevision : WorkflowRevisionId
  execution : ExecutionId
  sourceStepKey : String
  outcomeSelector : WorkflowOutcomeSelector
  guardResults : List (String × Bool)
  routes : List String
  deriving DecidableEq

/-- What the route digest of a terminal summary is taken of. -/
inductive RouteDigest
  | decision (payload : RouteDecisionPayload)
  | scatterZeroFanIn (snapshot : SnapshotId) (changeSet : ChangeSetId)
  | scatterFanIn (snapshot : SnapshotId) (changeSet : ChangeSetId) (children : List (ExecutionId × ExecutionStatus))
  deriving DecidableEq

inductive ActualBindingState
  | legacyUnverifiable | unsealed | sealed
  deriving DecidableEq

/-- What the digest of a sealed actual binding is taken of. -/
structure ActualSeal where
  representationPath : Digest
  selectedRoute : RouteDecisionPayload
  cleanStepKey : String
  cleanProcessKey : String
  cleanStrategy : CleanStrategy
  deriving DecidableEq

structure ProcessCounters where
  total : Nat := 0
  active : Nat := 0
  succeeded : Nat := 0
  failed : Nat := 0
  cancelled : Nat := 0
  deriving DecidableEq

/-- What the terminal summary digest of an Execution is taken of. -/
inductive TerminalSummary
  | route (digest : RouteDigest) (status : ExecutionStatus) (counts : ProcessCounters)
      (source : Option ProcessId) (error : Option String)
  | integrity (error : String)
  | cancelled
  deriving DecidableEq

structure ExecutionRow where
  team : TeamId
  task : TaskId
  generation : Nat
  root : ExecutionId
  parent : Option ExecutionId := none
  role : ExecutionRole := .root
  requiredness : WorkflowRequiredness := .required
  targetKind : TargetKind := .task
  target : Option ItemId := none
  intakeSnapshot : Option SnapshotId := none
  workflowRevision : WorkflowRevisionId
  compiledDigest : Digest
  domainBindingDigest : Digest := 0
  bindingState : ActualBindingState := .legacyUnverifiable
  binding : Option ActualSeal := none
  configSnapshot : Ref := 0
  status : ExecutionStatus := .ready
  rowRevision : Nat := 0
  waitingReason : Option WaitingReason := none
  waitingRef : Option WaitingRef := none
  nextWakeAt : Option Time := none
  currentProcess : Option ProcessId := none
  manifest : Option Ref := none
  manifestRevision : Nat := 0
  processCounters : ProcessCounters := {}
  childCounters : ProcessCounters := {}
  cancelRequestedAt : Option Time := none
  cancelConvergedAt : Option Time := none
  resultRef : Option Ref := none
  publicationProofRef : Option Ref := none
  finalErrorCode : Option String := none
  finalErrorMessage : Option String := none
  terminalSummary : Option TerminalSummary := none
  summaryCompletedAt : Option Time := none
  startedAt : Option Time := none
  completedAt : Option Time := none
  scatterIntakeRevision : Option RevisionId := none
  scatterMemberOrdinal : Option Nat := none
  scatterChangeSet : Option ChangeSetId := none
  metadataDisposition : Option MetadataDisposition := none
  deriving DecidableEq

/-! ### processes -/

inductive DispatchPool
  | localInference | nonInteractive | embed
  deriving DecidableEq

inductive GateAction
  | approve | reject | reclean
  deriving DecidableEq

inductive OperationMode
  | indexRebuildNoop | other
  deriving DecidableEq

inductive OutcomeDisposition
  | succeeded | failed | retryableFailure | waiting
  deriving DecidableEq

/-- The entries of an outcome's free payload that routing reads. -/
structure OutcomeExtra where
  operationMode : Option OperationMode := none
  gateAction : Option GateAction := none
  deriving DecidableEq

/-- What the digest of a Process outcome is taken of. -/
structure OutcomeContent where
  team : TeamId
  task : TaskId
  execution : ExecutionId
  process : ProcessId
  fencingGeneration : Nat
  disposition : OutcomeDisposition
  outputManifest : Option Ref := none
  proof : Option Ref := none
  errorCode : Option String := none
  errorMessage : Option String := none
  extra : OutcomeExtra := {}
  deriving DecidableEq

structure ProcessRow where
  team : TeamId
  execution : ExecutionId
  task : TaskId
  root : ExecutionId
  stepKey : String
  processKey : String
  contractVersion : String
  materializationKey : RouteDecisionPayload
  inputManifest : Ref
  configSnapshot : Ref := 0
  status : ProcessStatus := .ready
  rowRevision : Nat := 0
  availableAt : Time
  priorityRank : Nat
  deadlineAt : Option Time := none
  createdAt : Time
  leaseOwner : Option String := none
  claimToken : Option Nat := none
  leaseExpiresAt : Option Time := none
  heartbeatAt : Option Time := none
  fencingGeneration : Nat := 0
  deliveryCount : Nat := 0
  recoveryCount : Nat := 0
  retryCount : Nat := 0
  maxRetries : Nat
  maxRecoveries : Nat
  nextRetryAt : Option Time := none
  safeReplay : Bool
  acceptedOutcomeDigest : Option OutcomeContent := none
  outputManifest : Option Ref := none
  proof : Option Ref := none
  errorCode : Option String := none
  failureDisposition : Option String := none
  dispatchAdmitted : Bool := false
  dispatchPool : Option DispatchPool := none
  dispatchEnqueuedAt : Option Time := none
  startedAt : Option Time := none
  completedAt : Option Time := none
  cleanupEligibleAt : Option Time := none
  deriving DecidableEq

/-! ### gates -/

/-- The frozen review target of a Gate; its digest identifies it. -/
structure ReviewTarget where
  gate : GateId
  expectedExecutionRevision : Nat
  routeDecision : RouteDecisionPayload
  acceptProcess : ProcessId
  preflightProcess : ProcessId
  snapshot : SnapshotId
  artifact : Ref
  allowedActions : List GateAction
  deriving DecidableEq

structure GateRow where
  team : TeamId
  task : TaskId
  execution : ExecutionId
  generation : Nat
  gateKind : String
  status : GateStatus := .opened
  gateRevision : Nat := 0
  target : ReviewTarget
  deriving DecidableEq

structure DecisionRow where
  team : TeamId
  gate : GateId
  expectedGateRevision : Nat
  action : GateAction
  actorFingerprint : Nat
  idempotencyKey : Nat
  target : ReviewTarget
  deriving DecidableEq

/-- The durable projection of a selected-output control. -/
structure SelectedOutputRow where
  execution : ExecutionId
  controlStepKey : String
  candidatePort : String
  sourceProcess : Option ProcessId
  acceptedOutcomeDigest : Option OutcomeContent
  outputManifest : Ref
  representationFact : Option Digest
  routeDecision : RouteDecisionPayload
  fallbackUsed : Bool
  projectedAt : Time
  deriving DecidableEq

/-! ### the outbox -/

inductive OutboxPayload
  | wakeExecution (execution : ExecutionId) (task : Option TaskId) (generation : Option Nat)
  | wakeProcess (execution : ExecutionId) (process : ProcessId)
  | cancelExecution (execution : ExecutionId) (task : TaskId)
  | gateDecision (decision : DecisionId) (task : Option TaskId) (generation : Option Nat)
  | vectorizeConstruct (execution : ExecutionId) (task : TaskId) (construction : Ref)
  deriving DecidableEq

/-- The dedupe keys, by the prefix of the string the source formats. -/
inductive DedupeKey
  | wakeExecution (execution : ExecutionId)
  | materializeProcess (process : ProcessId)
  | retryProcess (process : ProcessId) (retry : Nat)
  | retryReady (process : ProcessId) (revision : Nat)
  | leaseRecovery (process : ProcessId) (fence : Nat)
  | operatorRestart (process : ProcessId) (fence : Nat)
  | cancelExecution (execution : ExecutionId) (revision : Nat)
  | gateDecision (decision : DecisionId)
  | repairGateDecision (decision : DecisionId)
  | repairWakeProcess (process : ProcessId) (fence : Nat)
  | repairWakeExecution (execution : ExecutionId) (manifestRevision : Nat)
  | scatterChildRelease (child : ExecutionId) (changeSet : ChangeSetId)
  | lifecycleWake (pref : String) (execution : ExecutionId) (fence : Nat)
  | vectorizeConstruct (execution : ExecutionId) (task : TaskId) (construction : Ref)
  | requeue (outbox : OutboxId) (generation : Nat)
  deriving DecidableEq

inductive OutboxOwner
  | execution (id : ExecutionId)
  | task (id : TaskId)
  | system
  deriving DecidableEq

structure OutboxRow where
  team : TeamId
  payload : OutboxPayload
  dedupeKey : DedupeKey
  status : OutboxStatus := .pending
  attempts : Nat := 0
  availableAt : Time
  createdAt : Time
  leaseOwner : Option Nat := none
  leaseExpiresAt : Option Time := none
  owner : OutboxOwner
  ownerGeneration : Nat
  deliveryGeneration : Nat := 1
  critical : Bool := true
  attemptBudget : Nat := 8
  deadErrorCode : String
  retryOf : Option OutboxId := none
  deriving DecidableEq

/-! ### commands -/

inductive CommandKind
  | executionStop | processRestart | outboxRequeue
  deriving DecidableEq

structure ReceiptRow where
  team : TeamId
  command : CommandKind
  target : Nat
  idempotencyKey : Nat
  result : Nat
  deriving DecidableEq

structure RestartRow where
  team : TeamId
  task : TaskId
  targetGeneration : Nat
  expectedRevision : Nat
  reason : Nat
  deriving DecidableEq

end KnowledgeBase
