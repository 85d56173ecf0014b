import KnowledgeBase.Engine.Claim
import KnowledgeBase.Engine.Commit

/-!
# Outcomes, retries and recovery

The transactions that end a delivery of a Process: the acceptance of its outcome, the promotion of due retries, the
recovery of expired leases, and the cancellation of the tree an Execution belongs to.
-/

namespace KnowledgeBase

/-! ### accepted outcomes -/

/-- An outcome as a worker submits it, with the digest it claims for its content. -/
structure ProcessOutcome extends OutcomeContent where
  outcomeDigest : OutcomeContent

/-- `canonical_outcome_digest`. -/
def canonicalOutcomeDigest (outcome : ProcessOutcome) : OutcomeContent := outcome.toOutcomeContent

/-- `_assert_outcome_identity`. -/
def assertOutcomeIdentity (p : ProcessId) (process : ProcessRow) (outcome : ProcessOutcome) : Except MkbError Unit :=
  if process.team != outcome.team || process.task != outcome.task || process.execution != outcome.execution ||
      p != outcome.process then
    .error (conflictError "outcome-identity-mismatch" "Process outcome identity does not match the claimed Process")
  else if process.fencingGeneration != outcome.fencingGeneration then
    .error (conflictError "stale-process-fence" "Process outcome fence is no longer current")
  else .ok ()

/-- A running Process under one fence. -/
def ProcessRow.isRunningAt (fence : Nat) (p : ProcessRow) : Bool :=
  p.status == .running && p.fencingGeneration == fence

/-- The write of a successful outcome. -/
def succeedProcessTx (now : Time) (p : ProcessId) (outcome : ProcessOutcome) : Tx Unit := do
  let updated ← casProcess p (·.isRunningAt outcome.fencingGeneration) fun r =>
    { r with
      status := .succeeded
      acceptedOutcomeDigest := some outcome.outcomeDigest
      outputManifest := outcome.outputManifest
      proof := outcome.proof
      errorCode := none
      claimToken := none
      leaseOwner := none
      leaseExpiresAt := none
      heartbeatAt := none
      completedAt := some now
      rowRevision := r.rowRevision + 1 }
  raiseIf (!updated) (conflictError "stale-process-fence" "Process outcome fence is no longer current")

/-- The write of a retryable failure on its Process. -/
def awaitRetryTx (p : ProcessId) (outcome : ProcessOutcome) (due : Time) : Tx Unit := do
  let updated ← casProcess p (·.isRunningAt outcome.fencingGeneration) fun r =>
    { r with
      status := .retryWait
      acceptedOutcomeDigest := some outcome.outcomeDigest
      retryCount := r.retryCount + 1
      nextRetryAt := some due
      availableAt := due
      errorCode := outcome.errorCode
      failureDisposition := some "retryable"
      claimToken := none
      leaseOwner := none
      leaseExpiresAt := none
      heartbeatAt := none
      dispatchAdmitted := false
      dispatchPool := none
      dispatchEnqueuedAt := none
      rowRevision := r.rowRevision + 1 }
  raiseIf (!updated) (conflictError "stale-process-fence" "Process outcome fence is no longer current")

/-- The wait of an Execution on the retry of its Process. -/
def awaitRetryDueTx (e : ExecutionId) (p : ProcessId) (due : Time) : Tx Unit := do
  let _ ← casExecution e (fun row => row.status == .ready || row.status == .running || row.status == .waiting)
    fun row =>
      { row with
        status := .waiting
        waitingReason := some .retryDue
        waitingRef := some (.process p)
        nextWakeAt := some due
        rowRevision := row.rowRevision + 1 }

/-- `UPDATE mkb_processes SET status='failed'` and the route of the failure. -/
def failAndRouteTx (d : Deployment) (now : Time) (e : ExecutionId) (row : ExecutionRow) (p : ProcessRecord)
    (errorCode failureDisposition : String) (acceptedOutcome : Option OutcomeContent) (extra : OutcomeExtra) :
    Tx Unit := do
  failProcessTx now p errorCode failureDisposition acceptedOutcome
  routeAfterTerminalProcessTx d now e row p .failed extra (some errorCode)

section outcome

variable (d : Deployment) (now : Time) (e : ExecutionId) (row : ExecutionRow) (p : ProcessRecord)
  (outcome : ProcessOutcome)

/-- The write of a successful outcome and its route. -/
def succeedAndRouteTx : Tx Unit := do
  succeedProcessTx now p.1 outcome
  let (accepted, _, _) ← processWithExecution p.1
  routeAfterTerminalProcessTx d now e row (p.1, accepted) .succeeded outcome.extra none

/-- The success branch: commit, write, route. -/
def acceptSuccessTx (task : TaskRow) (commit : Option OutcomeCommit) : Tx Unit := do
  if outcome.outputManifest.isNone || outcome.proof.isNone then
    failAndRouteTx d now e row p "outcome-proof-invalid" "integrity" none {}
  else do
    match commit with
    | none => pure ()
    | some commit => do
      let _ ← ofExcept (commandFromProcess p row task 0 0)
      validateAndCommitTx d now e row commit
    succeedAndRouteTx d now e row p outcome

/-- The due time of a retry: a jitter below the exponential cap. -/
def retryDueAt (jitter : Nat) : Time := now + min jitter (max d.retryDelay 1000 * Nat.pow 2 p.2.retryCount)

/-- The retryable branch. -/
def acceptRetryableTx (jitter : Nat) : Tx Unit := do
  raiseIf (outcome.errorCode.isNone || outcome.errorMessage.isNone)
    ⟨"outcome-error-required", "A retryable failure must include a bounded error code and message", 422⟩
  if p.2.retryCount < p.2.maxRetries then do
    let due := retryDueAt d now p jitter
    awaitRetryTx p.1 outcome due
    awaitRetryDueTx e p.1 due
    enqueueTx now p.2.team (.wakeProcess e p.1) (.retryProcess p.1 (p.2.retryCount + 1))
  else failAndRouteTx d now e row p "retry-exhausted" "retry-exhausted" (some outcome.outcomeDigest) {}

/-- The failure branch. -/
def acceptFailureTx : Tx Unit := do
  raiseIf (outcome.errorCode.isNone || outcome.errorMessage.isNone)
    ⟨"outcome-error-required", "A failed outcome must include a bounded error code and message", 422⟩
  failAndRouteTx d now e row p (outcome.errorCode.getD "") "non-retryable" (some outcome.outcomeDigest) outcome.extra

end outcome

/-- `accept_outcome`. -/
def acceptOutcomeTx (d : Deployment) (now : Time) (outcome : ProcessOutcome) (commit : Option OutcomeCommit)
    (jitter : Nat) : Tx Bool := do
  raiseIf (canonicalOutcomeDigest outcome != outcome.outcomeDigest)
    (conflictError "outcome-digest-invalid" "Process outcome digest does not match its canonical payload")
  let (process, row, task) ← processWithExecution outcome.process
  ofExcept (assertOutcomeIdentity outcome.process process outcome)
  if process.status.isTerminal then do
    raiseIf (process.acceptedOutcomeDigest != some outcome.outcomeDigest)
      (conflictError "stale-process-outcome" "A terminal Process cannot accept a different outcome")
    pure false
  else do
    raiseIf (process.status != .running)
      (conflictError "process-not-running" "Process must be running to accept an outcome")
    raiseIf row.status.isTerminal
      (conflictError "TERMINAL_OUTCOME_FENCED" "A terminal Execution cannot accept a new Process outcome")
    raiseIf (row.status == .cancelling)
      (conflictError "execution-cancelling" "Cancellation fenced this process outcome")
    let e := process.execution
    let p := (outcome.process, process)
    match outcome.disposition with
    | .succeeded => acceptSuccessTx d now e row p outcome task commit
    | .retryableFailure => acceptRetryableTx d now e row p outcome jitter
    | .failed => acceptFailureTx d now e row p outcome
    | .waiting => throw ⟨"unsupported-process-outcome",
        "Stages must return succeeded, failed, or retryable_failure; control waits are engine-owned", 422⟩
    refreshExecutionCountsTx e
    pure true

/-! ### due retries -/

/-- A retry that is due and whose Execution is open. -/
def Database.isDueRetry (now : Time) (db : Database) (p : ProcessRow) : Bool :=
  p.status == .retryWait && p.nextRetryAt.any (· ≤ now) &&
    (db.executions.get? p.execution).any fun e => !e.status.isTerminal && e.status != .cancelling

/-- The rows of `promote_due_retries`. -/
def Database.dueRetries (now : Time) (limit : Nat) (db : Database) : List ProcessRecord :=
  (sortRecords (fun r => [r.2.nextRetryAt.getD 0, r.1])
    (db.processes.select fun _ p => db.isDueRetry now p)).take limit

/-- One due retry: tells whether it was promoted. -/
def promoteRetryTx (now : Time) (p : ProcessRecord) : Tx Nat := do
  let updated ← casProcess p.1 (fun r => r.status == .retryWait && r.nextRetryAt.any (· ≤ now) &&
      r.rowRevision == p.2.rowRevision) fun r =>
    { r with status := .ready, availableAt := now, nextRetryAt := none, rowRevision := r.rowRevision + 1 }
  if updated then do
    let _ ← casExecution p.2.execution (fun row => row.status == .waiting && row.waitingReason == some .retryDue &&
        row.waitingRef == some (.process p.1)) fun row =>
      { row with
        status := .ready
        waitingReason := none
        waitingRef := none
        nextWakeAt := none
        rowRevision := row.rowRevision + 1 }
    enqueueTx now p.2.team (.wakeProcess p.2.execution p.1) (.retryReady p.1 (p.2.rowRevision + 1))
    pure 1
  else pure 0

/-- `promote_due_retries`. -/
def promoteDueRetriesTx (now : Time) (limit : Nat) : Tx Nat := do
  let rows := (← get).dueRetries now limit
  sumEach rows (promoteRetryTx now)

/-! ### expired leases -/

/-- The rows of `recover_expired_leases`. -/
def Database.expiredLeases (now : Time) (limit : Nat) (db : Database) : List ProcessRecord :=
  (sortRecords (fun r => [r.2.leaseExpiresAt.getD 0, r.1])
    (db.processes.select fun _ p => (p.status == .claimed || p.status == .running || p.status == .cancelling) &&
      p.leaseExpiresAt.any (· ≤ now))).take limit

/-- The end of a fenced Process whose lease ran out: tells whether it was written. -/
def cancelExpiredTx (now : Time) (p : ProcessRecord) : Tx Bool :=
  casProcess p.1 (fun r => r.status == .cancelling && r.fencingGeneration == p.2.fencingGeneration) fun r =>
    { r with
      status := .cancelled
      claimToken := none
      leaseOwner := none
      leaseExpiresAt := none
      heartbeatAt := none
      completedAt := some now
      rowRevision := r.rowRevision + 1 }

/-- The replay of a Process whose lease ran out: tells whether it was written. -/
def replayExpiredTx (now : Time) (p : ProcessRecord) : Tx Bool :=
  casProcess p.1 (fun r => (r.status == .claimed || r.status == .running) &&
      r.fencingGeneration == p.2.fencingGeneration && r.leaseExpiresAt.any (· ≤ now)) fun r =>
    { r with
      status := .ready
      claimToken := none
      leaseOwner := none
      leaseExpiresAt := none
      heartbeatAt := none
      fencingGeneration := r.fencingGeneration + 1
      recoveryCount := r.recoveryCount + 1
      availableAt := now
      dispatchAdmitted := false
      dispatchPool := none
      dispatchEnqueuedAt := none
      rowRevision := r.rowRevision + 1 }

/-- One expired lease: tells whether it was recovered. -/
def recoverLeaseTx (d : Deployment) (now : Time) (p : ProcessRecord) : Tx Nat := do
  let e := p.2.execution
  let row ← execution e
  if p.2.status == .cancelling || row.status == .cancelling then do
    let cancelled ← cancelExpiredTx now p
    let _ ← convergeCancellationTx now e
    pure (if cancelled then 1 else 0)
  else if !p.2.safeReplay then do
    failAndRouteTx d now e row p "indeterminate-side-effect" "indeterminate" none {}
    pure 1
  else if p.2.maxRecoveries ≤ p.2.recoveryCount then do
    failAndRouteTx d now e row p "recovery-exhausted" "recovery-exhausted" none {}
    pure 1
  else do
    if ← replayExpiredTx now p then do
      enqueueTx now p.2.team (.wakeProcess e p.1) (.leaseRecovery p.1 (p.2.fencingGeneration + 1))
      pure 1
    else pure 0

/-- `recover_expired_leases`. -/
def recoverExpiredLeasesTx (d : Deployment) (now : Time) (limit : Nat) : Tx Nat := do
  let rows := (← get).expiredLeases now limit
  let recovered ← sumEach rows (recoverLeaseTx d now)
  forEach (rows.map (·.2.execution)).dedup refreshExecutionCountsTx
  pure recovered

/-! ### requested cancellation -/

/-- `request_cancellation`. -/
def requestCancellationTx (now : Time) (e : ExecutionId) : Tx Bool := do
  let row ← execution e
  if row.status.isTerminal then pure false
  else do
    let _ ← execution row.root
    let _ ← cancelExecutionTreeTx now row.root true
    refreshExecutionCountsTx row.root
    pure true

end KnowledgeBase
