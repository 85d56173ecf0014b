import KnowledgeBase.Engine.Outbox

/-!
# Repair

`repair_once` promotes due retries, recovers expired leases, and then, in one transaction, scans for engine intents
that the durable state calls for and no delivery carries: undelivered gate decisions, unconverged cancellations,
ready Processes and Executions, stalled terminal Processes, waits, and the projections of terminal roots.
-/

namespace KnowledgeBase

/-! ### missing deliveries -/

/-- The decisions whose action matches the terminal status of their gate. -/
def Database.committedDecisions (db : Database) : List (DecisionId × DecisionRow) :=
  db.decisions.select fun _ r => (db.gates.get? r.gate).any fun g =>
    (r.action == .approve && g.status == .released) || (r.action == .reject && g.status == .rejected)

/-- A live delivery of a decision. -/
def Database.hasLiveDecisionDelivery (db : Database) (team : TeamId) (d : DecisionId) : Bool :=
  db.outbox.any fun _ row => row.team == team &&
    (row.dedupeKey == .gateDecision d || row.dedupeKey == .repairGateDecision d) &&
    (row.status == .pending || row.status == .inFlight)

def repairGateDecisionTx (now : Time) (r : DecisionId × DecisionRow) : Tx Nat := do
  if (← get).hasLiveDecisionDelivery r.2.team r.1 then pure 0
  else do
    enqueueTx now r.2.team (.gateDecision r.1 none none) (.repairGateDecision r.1)
    pure 1

/-- Enqueues a row unless its dedupe key is taken. -/
def enqueueMissingTx (now : Time) (team : TeamId) (payload : OutboxPayload) (key : DedupeKey) : Tx Nat := do
  if (← get).hasOutboxKey team key then pure 0
  else do
    enqueueTx now team payload key
    pure 1

def repairWakeProcessTx (now : Time) (p : ProcessRecord) : Tx Nat :=
  enqueueMissingTx now p.2.team (.wakeProcess p.2.execution p.1) (.repairWakeProcess p.1 p.2.fencingGeneration)

def repairWakeExecutionTx (now : Time) (e : ExecutionId × ExecutionRow) : Tx Nat :=
  enqueueMissingTx now e.2.team (.wakeExecution e.1 (some e.2.task) (some e.2.generation))
    (.repairWakeExecution e.1 e.2.manifestRevision)

def ExecutionRow.isLive (row : ExecutionRow) : Bool := !row.status.isTerminal && row.status != .cancelling

def Database.cancellingRoots (db : Database) : List ExecutionId :=
  (db.executions.select fun e row => row.root == e && row.status == .cancelling).map (·.1)

/-- The ready Processes of live Executions. -/
def Database.readyProcesses (db : Database) : List ProcessRecord :=
  db.processes.select fun _ p => p.status == .ready && (db.executions.get? p.execution).any (·.isLive)

/-- The Executions with no active Process that a start route has yet to be interpreted for. -/
def Database.readyExecutions (db : Database) : List (ExecutionId × ExecutionRow) :=
  db.executions.select fun e row => (row.status == .created || row.status == .ready) && !db.hasActiveProcess e

/-! ### stalled transitions -/

/-- An Execution whose current Process is terminal, which waits on nothing and has no decided gate. -/
def Database.stalledProcess? (db : Database) (e : ExecutionId) (row : ExecutionRow) : Option ProcessRecord :=
  if row.isLive && row.status != .waiting &&
      !(db.decisions.any fun _ r => (db.gates.get? r.gate).any fun g => g.execution == e) then
    row.currentProcess.bind fun id => ((db.processes.get? id).filter (·.status.isTerminal)).map (Prod.mk id)
  else none

def Database.stalled (db : Database) : List (ExecutionId × ExecutionRow × ProcessId) :=
  db.executions.rows.filterMap fun r => (db.stalledProcess? r.1 r.2).map fun p => (r.1, r.2, p.1)

/-- The selector a terminal Process is routed with again. -/
def ProcessStatus.selector : ProcessStatus → WorkflowOutcomeSelector
  | .succeeded => .succeeded
  | .failed => .failed
  | _ => .cancelled

/-- `_repair_terminal_process_transition_tx`. -/
def repairTerminalProcessTransitionTx (d : Deployment) (now : Time) (e : ExecutionId) (row : ExecutionRow)
    (p : ProcessId) : Tx Nat := do
  let (process, _, _) ← processWithExecution p
  let selector := process.status.selector
  let plan ← ofExcept (assertExecutionBinding d row)
  let candidates := plan.routes.filter fun route => route.fromStepKey == process.stepKey &&
    route.outcomeSelector == selector && route.guardKey.isNone
  if candidates.length != 1 then do
    failExecutionIntegrityTx now e "repair-terminal-route-ambiguous"
      "Terminal Process has no uniquely reconstructable route context"
    pure 1
  else do
    let decision ← ofExcept (routeDecision plan e row process.stepKey selector {})
    let _ ← applyRoutesTx d now plan e row decision (some (p, process)) {}
      (if selector = .failed then process.errorCode else none)
    pure 1

/-! ### waits -/

/-- A scatter child under a scatter root that waits on something. -/
def ExecutionRow.hasScatterPrerequisite (row : ExecutionRow) (parent : Option ExecutionRow) : Bool :=
  row.role == .scatterChild && parent.any (·.role == .scatterRoot) && row.waitingRef.isSome

/-- A live delivery of a decision on a gate. -/
def Database.hasPendingDecision (db : Database) (row : ExecutionRow) : Bool :=
  db.outbox.any fun _ o => o.team == row.team && (o.status == .pending || o.status == .inFlight) &&
    match o.payload with
    | .gateDecision id _ _ => (db.decisions.get? id).any fun r => row.waitingRef == some (.gate r.gate)
    | _ => false

/-- The gate an Execution waits on. -/
def Database.waitedGate? (db : Database) (e : ExecutionId) (row : ExecutionRow) : Option GateRow :=
  match row.waitingRef with
  | some (.gate g) => (db.gates.get? g).filter (·.execution == e)
  | _ => none

/-- A human-review wait on a gate of the Execution, open or closed, or with a decision under way. -/
def Database.gateWaitValid (db : Database) (e : ExecutionId) (row : ExecutionRow) : Bool :=
  (db.waitedGate? e row).isSome || db.hasPendingDecision row

/-- The retry an Execution waits on. -/
def Database.retryWaitValid (db : Database) (e : ExecutionId) (row : ExecutionRow) : Bool :=
  match row.waitingRef with
  | some (.process p) => (db.processes.get? p).any fun r => r.execution == e && r.status == .retryWait
  | _ => false

/-- A durable prerequisite that is none, or a scatter child that waits under a terminal parent. -/
def repairPrerequisiteTx (now : Time) (e : ExecutionId) (row : ExecutionRow) (parent : Option ExecutionRow) :
    Tx Nat :=
  if row.hasScatterPrerequisite parent then
    match row.parent, parent with
    | some id, some parent =>
      if parent.status.isTerminal then do
        let _ ← cancelExecutionTreeTx now id false
        pure 1
      else pure 0
    | _, _ => pure 0
  else do
    failExecutionIntegrityTx now e "waiting-prerequisite-invalid"
      "Execution has an invalid durable prerequisite wait"
    pure 1

/-- One wait: tells whether it was repaired. -/
def repairWaitTx (now : Time) (e : ExecutionId) (row : ExecutionRow) : Tx Nat := do
  match row.waitingReason with
  | some .scatterChildren => do
    let changed ← maybeConvergeScatterRootTx now e
    pure (if changed then 1 else 0)
  | some .durablePrerequisite => do
    let parent ← match row.parent with
      | some id => do
        let parent ← execution id
        pure (some parent)
      | none => pure none
    repairPrerequisiteTx now e row parent
  | some .humanReview => do
    if (← get).gateWaitValid e row then pure 0
    else do
      failExecutionIntegrityTx now e "waiting-gate-invalid" "Execution human-review wait has no current open Gate"
      pure 1
  | some .retryDue => do
    if (← get).retryWaitValid e row then pure 0
    else do
      failExecutionIntegrityTx now e "waiting-retry-invalid" "Execution retry wait has no matching retry Process"
      pure 1
  | none => do
    failExecutionIntegrityTx now e "waiting-reason-invalid"
      "Execution waiting state has no registered durable trigger"
    pure 1

/-! ### terminal projections -/

def Database.terminalRoots (db : Database) : List (ExecutionId × ExecutionRow) :=
  db.executions.select fun e row => row.root == e && row.status.isTerminal

/-- The Task status of a terminal Execution. -/
def ExecutionStatus.taskStatus : ExecutionStatus → TaskStatus
  | .succeeded => .succeeded
  | .failed => .failed
  | _ => .cancelled

/-- The Task projection of a terminal root from its own row. -/
def ExecutionRow.terminalProjection (e : ExecutionId) (row : ExecutionRow) : TaskProjection where
  target := row.status.taskStatus
  currentRoot := some e
  resultRef := row.resultRef
  proofRef := row.publicationProofRef
  errorCode := row.finalErrorCode
  errorMessage := row.finalErrorMessage

/-- `_repair_terminal_projection_tx`. -/
def repairTerminalProjectionTx (now : Time) (root : ExecutionId × ExecutionRow) : Tx Nat := do
  refreshExecutionCountsTx root.1
  let cleared ← casExecution root.1 (·.currentProcess.isSome) fun row =>
    { row with currentProcess := none, rowRevision := row.rowRevision + 1 }
  let projected ← projectTaskStatusTx now root.2.task (root.2.terminalProjection root.1)
  pure ((if cleared then 1 else 0) + (if projected then 1 else 0))

/-- The terminal-projection pass of `repair_once`. -/
def repairTerminalProjectionsTx (now : Time) : Tx Nat := do
  sumEach (← get).terminalRoots (repairTerminalProjectionTx now)

/-! ### cleanup eligibility -/

/-- A live outbox row that carries an Execution, directly or through a gate decision. -/
def Database.hasLiveDelivery (db : Database) (e : ExecutionId) (team : TeamId) : Bool :=
  db.outbox.any fun _ o => o.team == team && (o.status == .pending || o.status == .inFlight) &&
    match o.payload with
    | .wakeExecution id _ _ => id == e
    | .wakeProcess id _ => id == e
    | .cancelExecution id _ => id == e
    | .vectorizeConstruct id _ _ => id == e
    | .gateDecision id _ _ => ((db.decisions.get? id).bind fun r => db.gates.get? r.gate).any (·.execution == e)

/-- The terminal-cleanup predicate of a Process. -/
def Database.isCleanupEligible (d : Deployment) (now : Time) (db : Database) (p : ProcessRow) : Bool :=
  p.status.isTerminal && p.cleanupEligibleAt.isNone &&
    (db.executions.get? p.execution).any fun e =>
      e.status.isTerminal && e.terminalSummary.isSome && e.summaryCompletedAt.isSome &&
        e.completedAt.any (· + d.cleanupRecoveryWindow ≤ now) && e.currentProcess.isNone &&
        (e.status != .succeeded || e.publicationProofRef.isSome) && !db.hasActiveProcess p.execution &&
        !(db.processes.any fun _ q => q.execution == p.execution && q.leaseExpiresAt.any (now < ·)) &&
        !db.hasLiveDelivery p.execution e.team

def Database.cleanupCandidates (d : Deployment) (now : Time) (limit : Nat) (db : Database) : List ProcessRecord :=
  (sortRecords (fun r => [((db.executions.get? r.2.execution).bind (·.completedAt)).getD 0,
      r.2.completedAt.getD 0, r.1])
    (db.processes.select fun _ p => db.isCleanupEligible d now p)).take limit

def markCleanupEligibleTx (now : Time) (p : ProcessRecord) : Tx Nat := do
  let updated ← casProcess p.1 (fun r => r.cleanupEligibleAt.isNone && r.status.isTerminal) fun r =>
    { r with cleanupEligibleAt := some now, rowRevision := r.rowRevision + 1 }
  pure (if updated then 1 else 0)

/-- `_evaluate_cleanup_eligibility_tx`. -/
def evaluateCleanupEligibilityTx (d : Deployment) (now : Time) (limit : Nat) : Tx Nat := do
  let rows := (← get).cleanupCandidates d now limit
  sumEach rows (markCleanupEligibleTx now)

/-! ### the pass -/

/-- The scan transaction of `repair_once`. -/
def repairScanTx (d : Deployment) (now : Time) : Tx Nat := do
  let decisions ← sumEach (← get).committedDecisions (repairGateDecisionTx now)
  let cancelled ← sumEach (← get).cancellingRoots fun root => cancelExecutionTreeTx now root true
  let processes ← sumEach (← get).readyProcesses (repairWakeProcessTx now)
  let executions ← sumEach (← get).readyExecutions (repairWakeExecutionTx now)
  let stalled ← sumEach (← get).stalled fun r => repairTerminalProcessTransitionTx d now r.1 r.2.1 r.2.2
  let waits := (← get).executions.select fun _ row => row.status == .waiting
  let waited ← sumEach waits fun r => repairWaitTx now r.1 r.2
  let projected ← repairTerminalProjectionsTx now
  let marked ← evaluateCleanupEligibilityTx d now 256
  pure (decisions + cancelled + processes + executions + stalled + waited + projected + marked)

end KnowledgeBase
