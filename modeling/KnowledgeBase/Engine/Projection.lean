import KnowledgeBase.Store.Database

/-!
# Projections

The helpers every transition of the engine ends in: the outbox insert under its dedupe key, the single owned
projection of a Task's status, and the progress counters of an Execution and of its Task.
-/

namespace KnowledgeBase

/-! ### the outbox -/

namespace OutboxPayload

def owner : OutboxPayload → OutboxOwner
  | wakeExecution e _ _ => .execution e
  | wakeProcess e _ => .execution e
  | cancelExecution e _ => .execution e
  | gateDecision _ (some t) _ => .task t
  | gateDecision _ none _ => .system
  | vectorizeConstruct e _ _ => .execution e

def ownerGeneration : OutboxPayload → Nat
  | wakeExecution _ _ generation => generation.getD 0
  | gateDecision _ _ generation => generation.getD 0
  | _ => 0

/-- The dead-delivery codes of `OUTBOX_KIND_DEFINITIONS`; every kind is critical with a budget of eight. -/
def deadErrorCode : OutboxPayload → String
  | wakeExecution .. => "OUTBOX_WAKE_DEAD"
  | wakeProcess .. => "OUTBOX_WAKE_DEAD"
  | cancelExecution .. => "OUTBOX_CANCEL_DEAD"
  | gateDecision .. => "OUTBOX_GATE_DEAD"
  | vectorizeConstruct .. => "OUTBOX_VECTORIZE_DEAD"

end OutboxPayload

def Database.hasOutboxKey (db : Database) (team : TeamId) (key : DedupeKey) : Bool :=
  db.outbox.any fun _ row => row.team == team && row.dedupeKey == key

/-- `_enqueue_tx`: `INSERT OR IGNORE` under the unique dedupe key of the team. -/
def enqueueTx (now : Time) (team : TeamId) (payload : OutboxPayload) (key : DedupeKey) : Tx Unit :=
  modify fun db =>
    if db.hasOutboxKey team key then db
    else { db with outbox := db.outbox.insert {
      team := team
      payload := payload
      dedupeKey := key
      availableAt := now
      createdAt := now
      owner := payload.owner
      ownerGeneration := payload.ownerGeneration
      deadErrorCode := payload.deadErrorCode } }

/-! ### the Task status -/

/-- The intents whose success carries no publication proof. -/
def RequestIntent.prooflessLifecycle : RequestIntent → Bool
  | .intakeUpdateMetadata | .intakeDeactivate | .intakeReactivate | .intakeDelete => true
  | _ => false

/-- The statuses from which a projection may reach its target. -/
def TaskStatus.mayBecome (status : TaskStatus) : TaskStatus → Bool
  | .running => status == .queued
  | .succeeded => status == .running
  | .failed => status == .running || status == .cancelling || status == .queued
  | .cancelled => status == .cancelling
  | _ => false

structure TaskProjection where
  target : TaskStatus
  currentRoot : Option ExecutionId := none
  expectedGeneration : Option Nat := none
  resultRef : Option Ref := none
  proofRef : Option Ref := none
  resultDisposition : Option ResultDisposition := none
  errorCode : Option String := none
  errorMessage : Option String := none

def TaskRow.project (now : Time) (p : TaskProjection) (row : TaskRow) : TaskRow :=
  { row with
    status := p.target
    resultRef := p.resultRef.or row.resultRef
    proofRef := p.proofRef.or row.proofRef
    resultDisposition := p.resultDisposition.or row.resultDisposition
    errorCode := p.errorCode
    errorMessage := p.errorMessage
    startedAt := row.startedAt.or (if p.target = .running then some now else none)
    completedAt := if p.target.isTerminal then some now else row.completedAt
    rowRevision := row.rowRevision + 1 }

/-- `project_task_status_tx`. -/
def projectTaskStatusTx (now : Time) (t : TaskId) (p : TaskProjection) : Tx Bool := do
  match (← get).tasks.get? t with
  | none => pure false
  | some row =>
    if p.expectedGeneration.any (· != row.currentGeneration) then pure false
    else if p.currentRoot.any (· != row.currentRoot) then pure false
    else do
      raiseIf (p.target == .succeeded && p.proofRef.isNone && p.resultDisposition.isNone &&
          !row.requestIntent.prooflessLifecycle)
        ⟨"task-proof-missing", "Task cannot succeed without a durable publication proof", 409⟩
      if row.status.mayBecome p.target then
        casTask t (fun r => r.status == row.status && r.rowRevision == row.rowRevision) (TaskRow.project now p)
      else pure false

/-! ### the progress counters -/

def Database.processCounters (db : Database) (e : ExecutionId) : ProcessCounters where
  total := db.countProcesses e fun _ => true
  active := db.countProcesses e (·.isActive)
  succeeded := db.countProcesses e (· == .succeeded)
  failed := db.countProcesses e (· == .failed)
  cancelled := db.countProcesses e (· == .cancelled)

/-- The counters of a list of member statuses, all of them required members. -/
def memberCounters (total required : Nat) (statuses : List ExecutionStatus) : TaskCounters where
  total := total
  required := required
  active := statuses.countP fun s => !s.isTerminal
  succeeded := statuses.count .succeeded
  failed := statuses.count .failed
  cancelled := statuses.count .cancelled

/-- The members by Item, the last one winning, in the order the Items first occur. -/
def expectedByItem (expected : List IntakeFacts.ExpectedMember) : List IntakeFacts.ExpectedMember :=
  (expected.map (·.item)).eraseDups.filterMap fun item => (expected.filter fun m => m.item == item).getLast?

/-- The children of a root. -/
def Database.childrenOf (db : Database) (task : TaskId) (root : ExecutionId) : List (ExecutionId × ExecutionRow) :=
  db.executions.select fun _ c => c.task == task && c.root == root && c.parent == some root

/-- The status a required member counts with: that of its one correctly bound child, else `created`. -/
def memberStatus (children : List (ExecutionId × ExecutionRow)) (member : IntakeFacts.ExpectedMember) :
    ExecutionStatus :=
  match children.filter fun c => c.2.target == some member.item with
  | [(_, child)] =>
    if child.role == .scatterChild && child.requiredness == .required && child.targetKind == .intakeItem &&
        child.scatterIntakeRevision == some member.revision &&
        child.scatterMemberOrdinal == some member.memberOrdinal then child.status
    else .created
  | _ => .created

/-- `_refresh_scatter_task_counts_tx`. -/
def refreshScatterTaskCountsTx (t : TaskId) (root : ExecutionId) (expected : List IntakeFacts.ExpectedMember) :
    Tx Unit := do
  let children := (← get).childrenOf t root
  let counters := memberCounters expected.length expected.length
    ((expectedByItem expected).map (memberStatus children))
  modify fun db => db.updateExecution root fun row =>
    { row with childCounters :=
      ⟨counters.total, counters.active, counters.succeeded, counters.failed, counters.cancelled⟩ }
  let _ ← casTask t (fun row => row.currentRoot == root)
    fun row => { row with counters := counters, rowRevision := row.rowRevision + 1 }

/-- The members of a root's tree: its descendants, or the root itself when it has none. -/
def Database.treeMembers (db : Database) (task : TaskId) (root : ExecutionId) : List (ExecutionId × ExecutionRow) :=
  let tree := db.executions.select fun _ row => row.task == task && row.root == root
  tree.filter fun r => r.2.parent.isSome || !tree.any fun q => q.2.parent.isSome

/-- The accepted Snapshot and ChangeSet of a Task whose current root is the given Execution. -/
def Database.acceptance? (db : Database) (t : TaskId) (root : ExecutionId) : Option (SnapshotId × ChangeSetId) := do
  let task ← db.tasks.get? t
  if task.currentRoot = root then
    let snapshot ← task.intakeSnapshot
    let changeSet ← task.changeSet
    some (snapshot, changeSet)
  else none

/-- The required set of a scatter root's accepted collection, when there is one. -/
def Database.scatterDenominator? (db : Database) (e : ExecutionRow) : Option (List IntakeFacts.ExpectedMember) := do
  let root ← db.executions.get? e.root
  if root.role = .scatterRoot then
    let (snapshot, changeSet) ← db.acceptance? e.task e.root
    db.facts.scatterExpectedMembers snapshot changeSet
  else none

/-- `_refresh_execution_counts_tx`. -/
def refreshExecutionCountsTx (e : ExecutionId) : Tx Unit := do
  modify fun db => db.updateExecution e fun row => { row with processCounters := db.processCounters e }
  let db ← get
  let row ← orRaise (db.executions.get? e)
    ⟨"execution-not-found", "Execution disappeared while refreshing progress", 409⟩
  match db.scatterDenominator? row with
  | some expected => refreshScatterTaskCountsTx row.task row.root expected
  | none => do
    let members := db.treeMembers row.task row.root
    let counters := memberCounters members.length (members.filter fun m => m.2.requiredness == .required).length
      (members.map (·.2.status))
    let _ ← casTask row.task (fun task => task.currentRoot == row.root)
      fun task => { task with counters := counters, rowRevision := task.rowRevision + 1 }

end KnowledgeBase
