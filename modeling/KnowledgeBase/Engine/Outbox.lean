import KnowledgeBase.Engine.Gates
import KnowledgeBase.Engine.Outcome

/-!
# Deliveries

An outbox row is leased, handled, and then completed or released, each in a transaction of its own; a row released
with its attempt budget used up is dead, and a dead critical row fails the open Execution that owns it. A worker
whose lease ran out may still handle the row it leased, so a delivery can be repeated and can come late.
-/

namespace KnowledgeBase

/-! ### root wakes -/

/-- The plan and the typed context a wake decides from. -/
def wakeRoute (d : Deployment) (db : Database) (e : ExecutionId) (row : ExecutionRow) :
    Except MkbError (WorkflowDefinition × RouteContext) := do
  let plan ← assertExecutionBinding d row
  .ok (plan, typedRouteContext d db e row)

/-- The decision a wake takes: the routes out of the start step. -/
def startDecision (plan : WorkflowDefinition) (e : ExecutionId) (row : ExecutionRow) (typed : RouteContext) :
    Except MkbError RouteDecision :=
  match plan.startStep? with
  | none => .error ⟨"workflow-start-missing", "Workflow has no start step", 500⟩
  | some start => routeDecision plan e row start.stepKey .always typed

/-- `materialize_root`. -/
def materializeRootTx (d : Deployment) (now : Time) (e : ExecutionId) : Tx Bool := do
  let row ← execution e
  if row.status.isTerminal then pure false
  else if row.status == .cancelling then do
    let _ ← convergeCancellationTx now e
    pure false
  else if row.status == .waiting then
    if row.waitingReason == some .scatterChildren then do
      let changed ← maybeConvergeScatterRootTx now e
      refreshExecutionCountsTx e
      pure changed
    else pure false
  else do
    let db ← get
    let (plan, typed) ← ofExcept (wakeRoute d db e row)
    if typed.requestIntent.isNone then do
      failExecutionIntegrityTx now e "workflow-task-intent-missing"
        "Execution has no durable Task intent for static route selection"
      pure false
    else do
      let decision ← ofExcept (startDecision plan e row typed)
      if decision.routes.isEmpty then do
        failExecutionIntegrityTx now e "workflow-start-route-missing"
          "The bound workflow has no eligible start route"
        pure false
      else do
        let changed ← applyRoutesTx d now plan e row decision none typed none
        refreshExecutionCountsTx e
        pure changed

/-! ### leases -/

/-- A row that can be leased: pending and available, or in flight under an expired lease. -/
def OutboxRow.leasable (now : Time) (row : OutboxRow) : Bool :=
  (row.status == .pending && row.availableAt ≤ now) ||
    (row.status == .inFlight && row.leaseExpiresAt.any (· ≤ now))

def sortOutbox (l : List (OutboxId × OutboxRow)) : List (OutboxId × OutboxRow) :=
  List.insertionSort
    (fun a b => lexLe [a.2.availableAt, a.2.createdAt, a.1] [b.2.availableAt, b.2.createdAt, b.1] = true) l

/-- `_lease_outbox_row`. -/
def leaseOutboxRowTx (now : Time) (token leaseSeconds : Nat) : Tx (Option OutboxId) := do
  match (sortOutbox ((← get).outbox.select fun _ row => row.leasable now)).head? with
  | none => pure none
  | some (o, _) => do
    let updated ← casOutbox o (·.leasable now) fun row =>
      { row with
        status := .inFlight
        leaseOwner := some token
        leaseExpiresAt := some (now + leaseSeconds * 1000000)
        attempts := row.attempts + 1 }
    pure (if updated then some o else none)

/-- `_complete_outbox`. -/
def completeOutboxTx (o : OutboxId) (token : Nat) : Tx Unit := do
  let _ ← casOutbox o (fun row => row.status == .inFlight && row.leaseOwner == some token) fun row =>
    { row with status := .done, leaseOwner := none, leaseExpiresAt := none }

/-! ### dead deliveries -/

/-- The Execution a dead delivery fails: its owner, if it is open and of the generation the row was written for. -/
def Database.deadOwner? (db : Database) (row : OutboxRow) : Option (ExecutionId × ExecutionRow) :=
  match row.critical, row.owner with
  | true, .execution e =>
    ((db.executions.get? e).filter fun exec => !exec.status.isTerminal &&
      (row.ownerGeneration == 0 || exec.generation == row.ownerGeneration)).map (Prod.mk e)
  | _, _ => none

/-- The failure of an Execution a required delivery of which is dead. -/
def closeDeadTx (now : Time) (e : ExecutionId) (row : ExecutionRow) (errorCode error : String) : Tx Unit := do
  let _ ← casExecution e (!·.status.isTerminal) fun r =>
    { r with
      status := .failed
      finalErrorCode := some errorCode
      finalErrorMessage := some error
      completedAt := some now
      rowRevision := r.rowRevision + 1 }
  projectRootTaskTx now e row .failed none (some errorCode)
    (some "Required workflow delivery reached its retry budget") none

/-- `_record_outbox_dead_tx`. -/
def recordOutboxDeadTx (now : Time) (row : OutboxRow) (error : String) : Tx Unit := do
  match (← get).deadOwner? row with
  | none => pure ()
  | some (e, exec) => closeDeadTx now e exec row.deadErrorCode error

/-- `_release_outbox`. -/
def releaseOutboxTx (now : Time) (o : OutboxId) (token : Nat) (error : String) : Tx Unit := do
  match (← get).outbox.get? o with
  | none => pure ()
  | some row => do
    let dead := row.attemptBudget ≤ row.attempts
    let released ← casOutbox o (fun r => r.status == .inFlight && r.leaseOwner == some token) fun r =>
      { r with
        status := if dead then .dead else .pending
        leaseOwner := none
        leaseExpiresAt := none
        availableAt := now + 1000000 }
    if dead && released then recordOutboxDeadTx now row error

/-- `requeue_dead_outbox`: the new delivery. -/
def requeueDeadOutboxTx (now : Time) (o : OutboxId) (expectedGeneration idempotencyKey : Nat) : Tx OutboxId := do
  let db ← get
  let row ← orRaise (db.outbox.get? o) ⟨"OUTBOX_NOT_FOUND", "Outbox delivery was not found", 404⟩
  raiseIf (row.status != .dead) ⟨"OUTBOX_REQUEUE_STATE_INVALID", "Only a dead delivery can be requeued", 409⟩
  raiseIf (row.deliveryGeneration != expectedGeneration)
    (conflictError "COMMAND_FENCE_CONFLICT" "Outbox delivery generation is stale")
  match (db.receipts.select fun _ r => r.team == row.team && r.command == .outboxRequeue && r.target == o &&
      r.idempotencyKey == idempotencyKey).head? with
  | some (_, receipt) => pure receipt.result
  | none => do
    raiseIf (db.hasOutboxKey row.team (.requeue o (row.deliveryGeneration + 1)))
      ⟨"IntegrityError", "UNIQUE constraint failed: mkb_outbox.dedupe_key", 500⟩
    let new := db.outbox.next
    let requeued : OutboxRow := { row with
      dedupeKey := .requeue o (row.deliveryGeneration + 1)
      status := .pending
      attempts := 0
      availableAt := now
      createdAt := now
      leaseOwner := none
      leaseExpiresAt := none
      deliveryGeneration := row.deliveryGeneration + 1
      retryOf := some o }
    let receipt : ReceiptRow := ⟨row.team, .outboxRequeue, o, idempotencyKey, new⟩
    set { db with outbox := db.outbox.insert requeued, receipts := db.receipts.insert receipt }
    pure new

end KnowledgeBase
