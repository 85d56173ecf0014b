import KnowledgeBase.Engine.Materialize

/-!
# Dispatch and claims

The dispatch pools and their capacities, the admission of waiting Processes, and the transactions by which a
worker takes, starts and keeps a Process: `claim_next`, `mark_running` and `heartbeat`.
-/

namespace KnowledgeBase

/-! ### pools -/

inductive PoolKind
  | generate | embed | unpooled
  deriving DecidableEq

/-- `pool_kind`. -/
def poolKind (processKey : String) (live : Bool) : PoolKind :=
  if generateProcessKeys.contains processKey then .generate
  else if processKey == "lsrag.vectorize" then (if live then .embed else .unpooled)
  else .unpooled

def ProcessRow.isRunningIn (pool : DispatchPool) (p : ProcessRow) : Bool :=
  p.dispatchPool == some pool && (p.status == .claimed || p.status == .running)

def ProcessRow.isQueuedIn (pool : DispatchPool) (p : ProcessRow) : Bool :=
  p.dispatchPool == some pool && p.status == .ready && p.dispatchAdmitted

/-- The running count of `get_pool_occupancies`. -/
def Database.poolRunning (db : Database) (pool : DispatchPool) : Nat :=
  db.processes.count fun _ p => p.isRunningIn pool

/-- The queued count of `get_pool_occupancies`. -/
def Database.poolQueued (db : Database) (pool : DispatchPool) : Nat :=
  db.processes.count fun _ p => p.isQueuedIn pool

namespace DispatchCaps

def running (caps : DispatchCaps) : DispatchPool → Nat
  | .localInference => caps.localRunning
  | .nonInteractive => caps.niRunning
  | .embed => caps.embedRunning

def queued (caps : DispatchCaps) : DispatchPool → Nat
  | .localInference => caps.localQueued
  | .nonInteractive => caps.niQueued
  | .embed => caps.embedQueued

end DispatchCaps

/-- What `choose_pool` is told about one generate Process and the pools. -/
structure PoolChoice where
  priority : TaskPriority
  localQueued : Nat
  niQueued : Nat
  localAvailable : Bool
  niQuota : Bool
  overBudget : Bool
  explicitChannel : Option CompressionChannel

/-- `choose_pool` for a generate Process. -/
def choosePool (caps : DispatchCaps) (c : PoolChoice) : Option DispatchPool :=
  let toLocal := if c.localAvailable && c.localQueued < caps.localQueued then some DispatchPool.localInference else none
  let toNi := if c.niQuota && c.niQueued < caps.niQueued then some DispatchPool.nonInteractive else none
  match c.explicitChannel with
  | some .localInference => toLocal
  | some .nonInteractive => toNi
  | none =>
    match c.priority with
    | .urgent | .high => toNi
    | .normal => if c.overBudget then toNi else toLocal.or toNi
    | .low => toLocal

/-! ### admission -/

/-- A Process whose Execution and Task may run. -/
def Database.dispatchable (db : Database) (p : ProcessRow) : Bool :=
  (db.executions.get? p.execution).any (fun e => e.status == .ready || e.status == .running) &&
    (db.tasks.get? p.task).any fun t => t.status == .queued || t.status == .running

def lexLe : List Nat → List Nat → Bool
  | [], _ => true
  | _ :: _, [] => false
  | a :: as, b :: bs => a < b || (a == b && lexLe as bs)

/-- `ORDER BY available_at, created_at, process_uuid`. -/
def fifoKey (r : ProcessRecord) : List Nat := [r.2.availableAt, r.2.createdAt, r.1]

/-- `ORDER BY priority_rank DESC, available_at, created_at, process_uuid`. -/
def generateKey (r : ProcessRecord) : List Nat := [400 - r.2.priorityRank, r.2.availableAt, r.2.createdAt, r.1]

/-- `ORDER BY priority_rank DESC, available_at, deadline_at NULLS LAST, created_at, process_uuid`. -/
def claimKey (r : ProcessRecord) : List Nat :=
  [400 - r.2.priorityRank, r.2.availableAt, if r.2.deadlineAt.isNone then 1 else 0, r.2.deadlineAt.getD 0,
    r.2.createdAt, r.1]

def sortRecords (key : ProcessRecord → List Nat) (l : List ProcessRecord) : List ProcessRecord :=
  List.insertionSort (fun a b => lexLe (key a) (key b) = true) l

/-- `_admit_one_tx`. -/
def admitOneTx (now : Time) (p : ProcessId) (pool : Option DispatchPool) : Tx Bool :=
  casProcess p (fun r => !r.dispatchAdmitted) fun r =>
    { r with dispatchAdmitted := true, dispatchPool := pool, dispatchEnqueuedAt := some now }

/-- The embed loop of the admission, with the queued count it keeps. -/
def admitEmbedsTx (d : Deployment) (now : Time) : List ProcessRecord → Nat → Tx Unit
  | [], _ => pure ()
  | r :: rs, queued =>
    if d.dispatchCaps.embedQueued ≤ queued then pure ()
    else do
      let admitted ← admitOneTx now r.1 (some .embed)
      admitEmbedsTx d now rs (if admitted then queued + 1 else queued)

/-- The generate loop of the admission, with the queued counts of the two pools it keeps. -/
def admitGeneratesTx (d : Deployment) (now : Time) : List ProcessRecord → Nat → Nat → Tx Unit
  | [], _, _ => pure ()
  | r :: rs, localQueued, niQueued => do
    match (← get).tasks.get? r.2.task with
    | none => admitGeneratesTx d now rs localQueued niQueued
    | some task =>
      if d.modelCapacityPriorityGate && (task.priority == .low || task.priority == .normal) then
        admitGeneratesTx d now rs localQueued niQueued
      else match choosePool d.dispatchCaps {
          priority := task.priority
          localQueued := localQueued
          niQueued := niQueued
          localAvailable := d.liveInference && d.localGenerationEnabled
          niQuota := d.nonInteractiveQuota
          overBudget := overBudgetProcessKeys.contains r.2.processKey &&
            d.dispatchCaps.localCharBudget < task.audit.sourceChars
          explicitChannel := task.audit.compressionChannel } with
        | some .localInference =>
          if localQueued < d.dispatchCaps.localQueued then do
            let admitted ← admitOneTx now r.1 (some .localInference)
            admitGeneratesTx d now rs (if admitted then localQueued + 1 else localQueued) niQueued
          else admitGeneratesTx d now rs localQueued niQueued
        | some .nonInteractive =>
          if niQueued < d.dispatchCaps.niQueued then do
            let admitted ← admitOneTx now r.1 (some .nonInteractive)
            admitGeneratesTx d now rs localQueued (if admitted then niQueued + 1 else niQueued)
          else admitGeneratesTx d now rs localQueued niQueued
        | _ => admitGeneratesTx d now rs localQueued niQueued

/-- The reservations the model-capacity gate releases. -/
def releaseGatedReservations (db : Database) : Database :=
  let processes := db.processes.update
    (fun _ p => p.status == .ready && p.dispatchAdmitted && (p.priorityRank == 100 || p.priorityRank == 200) &&
      generateProcessKeys.contains p.processKey)
    fun _ p => { p with dispatchAdmitted := false, dispatchPool := none, dispatchEnqueuedAt := none }
  { db with processes := processes }

/-- `_admit_waiting_processes_tx`. -/
def admitWaitingProcessesTx (d : Deployment) (now : Time) : Tx Unit := do
  if d.modelCapacityPriorityGate then modify releaseGatedReservations
  let db ← get
  let waiting := db.processes.select fun _ p => p.status == .ready && !p.dispatchAdmitted && p.availableAt ≤ now &&
    db.dispatchable p
  let ofKind (kind : PoolKind) := waiting.filter fun r => poolKind r.2.processKey d.liveInference == kind
  forEach (ofKind .unpooled) fun r => do
    let _ ← admitOneTx now r.1 none
  admitEmbedsTx d now (sortRecords fifoKey (ofKind .embed)) (db.poolQueued .embed)
  admitGeneratesTx d now (sortRecords generateKey (ofKind .generate)) (db.poolQueued .localInference)
    (db.poolQueued .nonInteractive)

/-! ### failing a Process -/

/-- `_fail_process_tx`. -/
def failProcessTx (now : Time) (p : ProcessRecord) (errorCode failureDisposition : String)
    (acceptedOutcome : Option OutcomeContent) : Tx Unit := do
  let updated ← casProcess p.1 (fun r => !r.status.isTerminal && r.fencingGeneration == p.2.fencingGeneration)
    fun r =>
      { r with
        status := .failed
        acceptedOutcomeDigest := acceptedOutcome.or r.acceptedOutcomeDigest
        errorCode := some errorCode
        failureDisposition := some failureDisposition
        claimToken := none
        leaseOwner := none
        leaseExpiresAt := none
        heartbeatAt := none
        completedAt := some now
        rowRevision := r.rowRevision + 1 }
  if updated then pure ()
  else
    match (← get).processes.get? p.1 with
    | none => pure ()
    | some current =>
      -- A newer owner has already fenced this failure attempt.
      raiseIf (current.fencingGeneration == p.2.fencingGeneration) (conflictError "stale-process-fence"
        "Process failure could not be written against the claimed fencing generation")

/-- `_fail_expired_ready_tx`. -/
def failExpiredReadyTx (d : Deployment) (now : Time) (p : ProcessRecord) : Tx Unit := do
  let row ← execution p.2.execution
  let _ ← ofExcept (assertExecutionBinding d row)
  failProcessTx now p "deadline-exceeded-before-start" "deadline" none
  let row ← execution p.2.execution
  routeAfterTerminalProcessTx d now p.2.execution row p .failed {} (some "deadline-exceeded-before-start")
  refreshExecutionCountsTx p.2.execution

/-! ### claims -/

/-- The delivery envelope of a claim. -/
structure ClaimedProcess where
  process : ProcessId
  execution : ExecutionId
  task : TaskId
  stepKey : String
  processKey : String
  fencingGeneration : Nat
  inputManifest : Ref
  bindingState : ActualBindingState
  binding : Option ActualSeal
  claimToken : Nat
  leaseExpiresAt : Time
  deriving DecidableEq

/-- `_command_from_process`. -/
def commandFromProcess (p : ProcessRecord) (row : ExecutionRow) (task : TaskRow) (token : Nat) (expires : Time) :
    Except MkbError ClaimedProcess :=
  let actual := row.projectedActualDigest
  if row.bindingState = .sealed && actual.isNone then
    .error ⟨"ACTUAL_S05_INTEGRITY", "Sealed actual S05 state lacks a valid digest", 503⟩
  else if row.bindingState = .unsealed && requiresActualBinding p.2.processKey &&
      !task.requestIntent.skipsActualBinding then
    .error (conflictError "ACTUAL_S05_UNSEALED" "The clean boundary cannot be claimed before actual S05 is sealed")
  else .ok {
    process := p.1
    execution := p.2.execution
    task := p.2.task
    stepKey := p.2.stepKey
    processKey := p.2.processKey
    fencingGeneration := p.2.fencingGeneration
    inputManifest := p.2.inputManifest
    bindingState := row.bindingState
    binding := actual
    claimToken := token
    leaseExpiresAt := expires }

/-- The worker's role-derived filter on Process keys. -/
def Deployment.claimable (d : Deployment) (p : ProcessRow) : Bool :=
  d.claimableProcessKeys.all fun keys => keys.contains p.processKey

def Database.expiredReady (d : Deployment) (now : Time) (db : Database) : Option ProcessRecord :=
  (db.processes.select fun _ p => p.status == .ready && p.deadlineAt.any (· < now) && db.dispatchable p &&
    d.claimable p).head?

def Database.embedCandidate (d : Deployment) (now : Time) (db : Database) : Option ProcessRecord :=
  if db.poolRunning .embed < d.dispatchCaps.embedRunning then
    (sortRecords fifoKey (db.processes.select fun _ p => p.status == .ready && p.availableAt ≤ now &&
      p.dispatchAdmitted && p.dispatchPool == some .embed && db.dispatchable p && d.claimable p)).head?
  else none

def Database.otherCandidate (d : Deployment) (now : Time) (db : Database) : Option ProcessRecord :=
  let localCanRun := db.poolRunning .localInference < d.dispatchCaps.localRunning
  let niCanRun := db.poolRunning .nonInteractive < d.dispatchCaps.niRunning
  (sortRecords claimKey (db.processes.select fun _ p => p.status == .ready && p.availableAt ≤ now &&
    p.dispatchAdmitted &&
    (p.dispatchPool == none || (p.dispatchPool == some .localInference && decide localCanRun) ||
      (p.dispatchPool == some .nonInteractive && decide niCanRun)) &&
    db.dispatchable p && d.claimable p)).head?

def Database.claimCandidate (d : Deployment) (now : Time) (db : Database) : Option ProcessRecord :=
  match db.embedCandidate d now, db.otherCandidate d now with
  | some embed, some other => if lexLe (fifoKey embed) (fifoKey other) then some embed else some other
  | some embed, none => some embed
  | none, other => other

structure ClaimRequest where
  leaseOwner : String
  leaseSeconds : Nat := 30
  token : Nat

/-- The claim of one candidate; `none` if it changed meanwhile. -/
def claimCandidateTx (now : Time) (request : ClaimRequest) (candidate : ProcessRecord) :
    Tx (Option ClaimedProcess) := do
  let expires := now + request.leaseSeconds * 1000000
  let updated ← casProcess candidate.1
    (fun r => r.status == .ready && r.rowRevision == candidate.2.rowRevision && r.availableAt ≤ now) fun r =>
    { r with
      status := .claimed
      claimToken := some request.token
      leaseOwner := some request.leaseOwner
      leaseExpiresAt := some expires
      fencingGeneration := r.fencingGeneration + 1
      deliveryCount := r.deliveryCount + 1
      rowRevision := r.rowRevision + 1 }
  if updated then do
    let (process, row, task) ← processWithExecution candidate.1
    let claimed ← ofExcept (commandFromProcess (candidate.1, process) row task request.token expires)
    pure (some claimed)
  else pure none

/-- The claim loop, with the rounds it has left. -/
def claimLoopTx (d : Deployment) (now : Time) (request : ClaimRequest) : Nat → Tx (Option ClaimedProcess)
  | 0 => pure none
  | rounds + 1 => do
    match (← get).expiredReady d now with
    | some expired => do
      failExpiredReadyTx d now expired
      claimLoopTx d now request rounds
    | none => do
      admitWaitingProcessesTx d now
      match (← get).claimCandidate d now with
      | none => pure none
      | some candidate => do
        let row ← execution candidate.2.execution
        let plan ← ofExcept (assertExecutionBinding d row)
        ofExcept (assertProcessDeclared plan candidate.2)
        if candidate.2.deadlineAt.any (· < now) then do
          failExpiredReadyTx d now candidate
          claimLoopTx d now request rounds
        else do
          match ← claimCandidateTx now request candidate with
          | some claimed => pure (some claimed)
          | none => claimLoopTx d now request rounds

/-- The claim transaction of `claim_next`. -/
def claimNextTx (d : Deployment) (now : Time) (request : ClaimRequest) : Tx (Option ClaimedProcess) := do
  raiseIf (request.leaseOwner.isEmpty || 256 < request.leaseOwner.length)
    ⟨"invalid-lease-owner", "lease_owner must be a non-empty bounded identifier", 422⟩
  raiseIf (request.leaseSeconds < 1 || 3600 < request.leaseSeconds)
    ⟨"invalid-lease-seconds", "lease_seconds must be between 1 and 3600", 422⟩
  if d.claimableProcessKeys == some [] then pure none
  else claimLoopTx d now request 64

/-- `mark_running`. -/
def markRunningTx (now : Time) (p : ProcessId) (fence : Nat) : Tx Bool := do
  let (process, _, _) ← processWithExecution p
  if process.status == .running && process.fencingGeneration == fence then pure false
  else do
    let updated ← casProcess p (fun r => r.status == .claimed && r.fencingGeneration == fence) fun r =>
      { r with
        status := .running
        startedAt := r.startedAt.or (some now)
        heartbeatAt := some now
        rowRevision := r.rowRevision + 1 }
    raiseIf (!updated) (conflictError "stale-process-fence" "Process claim is no longer current")
    let row ← execution process.execution
    let _ ← casExecution process.execution (·.status == .ready) fun r =>
      { r with
        status := .running
        startedAt := r.startedAt.or (some now)
        rowRevision := r.rowRevision + 1 }
    if row.root == process.execution then do
      let _ ← projectTaskStatusTx now row.task { target := .running, currentRoot := some process.execution }
    pure true

/-- `heartbeat`. -/
def heartbeatTx (now : Time) (p : ProcessId) (fence leaseSeconds : Nat) : Tx Bool := do
  raiseIf (leaseSeconds < 1 || 3600 < leaseSeconds)
    ⟨"invalid-lease-seconds", "lease_seconds must be between 1 and 3600", 422⟩
  casProcess p (fun r => r.status == .running && r.fencingGeneration == fence && r.leaseExpiresAt.any (now < ·))
    fun r =>
      { r with
        heartbeatAt := some now
        leaseExpiresAt := some (now + leaseSeconds * 1000000)
        rowRevision := r.rowRevision + 1 }

end KnowledgeBase
