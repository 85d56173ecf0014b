import KnowledgeBase.Library.Transaction
import KnowledgeBase.Store.Intake

/-!
# The database and the deployment

`Database` is the durable state: every operation of the engine is a transaction on it. `Deployment` is what a
running engine is constructed with and never changes: the reviewed plans by compiled digest, the registry's
immutable revision rows, the dispatch capacities and the retry, recovery and cleanup settings.
-/

namespace KnowledgeBase

structure Database where
  tasks : Table TaskRow
  executions : Table ExecutionRow
  processes : Table ProcessRow
  gates : Table GateRow
  decisions : Table DecisionRow
  selectedOutputs : Table SelectedOutputRow
  outbox : Table OutboxRow
  receipts : Table ReceiptRow
  restarts : Table RestartRow
  facts : IntakeFacts

def Database.empty : Database where
  tasks := .empty
  executions := .empty
  processes := .empty
  gates := .empty
  decisions := .empty
  selectedOutputs := .empty
  outbox := .empty
  receipts := .empty
  restarts := .empty
  facts := .empty

/-- An error of the runtime: code, message and HTTP status. -/
structure MkbError where
  code : String
  message : String
  status : Nat
  deriving DecidableEq

def conflictError (code message : String) : MkbError := ⟨code, message, 409⟩

def notFoundError (code message : String) : MkbError := ⟨code, message, 404⟩

abbrev Tx := Transaction Database MkbError

export Transaction (raiseIf orRaise ofExcept forEach sumEach anyEach)

/-- An immutable row of the workflow registry. -/
structure WorkflowRevisionRow where
  compiledDigest : Digest
  workflowKey : String
  executionRole : ExecutionRole
  stepKeys : List String
  deriving DecidableEq

/-- The pool capacities; the defaults are the frozen constants. -/
structure DispatchCaps where
  localRunning : Nat := 2
  localQueued : Nat := 6
  niRunning : Nat := 2
  niQueued : Nat := 4
  embedRunning : Nat := 8
  embedQueued : Nat := 20
  localCharBudget : Nat := 16000

structure Deployment where
  plans : List (Digest × ValidWorkflow)
  activeWorkflowKeys : List String
  revisions : List (WorkflowRevisionId × WorkflowRevisionRow)
  dispatchCaps : DispatchCaps := {}
  liveInference : Bool := true
  localGenerationEnabled : Bool := true
  nonInteractiveQuota : Bool := true
  defaultMaxRetries : Nat := 3
  defaultMaxRecoveries : Nat := 3
  retryDelay : Nat := 1000000
  cleanupRecoveryWindow : Nat := 60000000
  claimableProcessKeys : Option (List String) := none
  modelCapacityPriorityGate : Bool := false
  readsRepresentationFacts : Bool := true
  hasConfigSnapshots : Bool := true

/-! ### writing one table -/

namespace Database

def updateTask (t : TaskId) (f : TaskRow → TaskRow) (db : Database) : Database :=
  { db with tasks := db.tasks.modify t f }

def updateExecution (e : ExecutionId) (f : ExecutionRow → ExecutionRow) (db : Database) : Database :=
  { db with executions := db.executions.modify e f }

def updateProcess (p : ProcessId) (f : ProcessRow → ProcessRow) (db : Database) : Database :=
  { db with processes := db.processes.modify p f }

/-- `UPDATE mkb_processes … WHERE execution_uuid=? AND …`. -/
def updateProcessesOf (e : ExecutionId) (c : ProcessRow → Bool) (f : ProcessRow → ProcessRow) (db : Database) :
    Database :=
  { db with processes := db.processes.update (fun _ p => p.execution == e && c p) fun _ => f }

/-- The number of Processes of an Execution whose status satisfies the predicate. -/
def countProcesses (db : Database) (e : ExecutionId) (c : ProcessStatus → Bool) : Nat :=
  db.processes.count fun _ p => p.execution == e && c p.status

def hasActiveProcess (db : Database) (e : ExecutionId) : Bool :=
  db.processes.any fun _ p => p.execution == e && p.status.isActive

end Database

/-! ### reading one row -/

/-- `_execution`. -/
def execution (e : ExecutionId) : Tx ExecutionRow := do
  orRaise ((← get).executions.get? e) (notFoundError "execution-not-found" "Execution was not found")

/-- `_process_with_execution`: the Process with its Execution and its Task. -/
def processWithExecution (p : ProcessId) : Tx (ProcessRow × ExecutionRow × TaskRow) := do
  let db ← get
  match db.processes.get? p with
  | none => throw (notFoundError "process-not-found" "Process was not found")
  | some process =>
    match db.executions.get? process.execution, db.tasks.get? process.task with
    | some exec, some task => pure (process, exec, task)
    | _, _ => throw (notFoundError "process-not-found" "Process was not found")

/-! ### conditional writes -/

section cas

variable {ρ : Type}

/-- `UPDATE … WHERE key=? AND …` on one table: tells whether the row was updated. -/
def compareAndSet (table : Database → Table ρ) (put : Table ρ → Database → Database) (k : Nat) (c : ρ → Bool)
    (f : ρ → ρ) : Tx Bool := do
  let db ← get
  match (table db).get? k with
  | none => pure false
  | some row =>
    if c row then do
      set (put ((table db).modify k f) db)
      pure true
    else pure false

end cas

def casTask (t : TaskId) (c : TaskRow → Bool) (f : TaskRow → TaskRow) : Tx Bool :=
  compareAndSet (·.tasks) (fun rows db => { db with tasks := rows }) t c f

def casExecution (e : ExecutionId) (c : ExecutionRow → Bool) (f : ExecutionRow → ExecutionRow) : Tx Bool :=
  compareAndSet (·.executions) (fun rows db => { db with executions := rows }) e c f

def casProcess (p : ProcessId) (c : ProcessRow → Bool) (f : ProcessRow → ProcessRow) : Tx Bool :=
  compareAndSet (·.processes) (fun rows db => { db with processes := rows }) p c f

def casGate (g : GateId) (c : GateRow → Bool) (f : GateRow → GateRow) : Tx Bool :=
  compareAndSet (·.gates) (fun rows db => { db with gates := rows }) g c f

def casOutbox (o : OutboxId) (c : OutboxRow → Bool) (f : OutboxRow → OutboxRow) : Tx Bool :=
  compareAndSet (·.outbox) (fun rows db => { db with outbox := rows }) o c f

end KnowledgeBase
