import KnowledgeBase.Engine.Materialize

/-!
# Gates

A human-review gate is decided by a command of the Task surface, which closes the gate and leaves a durable
decision, and the decision is consumed by the engine, which resumes the Execution from the gate's control step.
-/

namespace KnowledgeBase

/-! ### decisions -/

/-- The intents whose Tasks call a model: `MODEL_BEARING_INTENTS`. -/
def RequestIntent.isModelBearing : RequestIntent → Bool
  | .intakeIngest | .intakeRebuild => true
  | _ => false

/-- `assert_model_capacity_allowed`. -/
def assertModelCapacityAllowed (d : Deployment) (priority : TaskPriority) (intent : RequestIntent) :
    Except MkbError Unit :=
  if d.modelCapacityPriorityGate && intent.isModelBearing && (priority == .low || priority == .normal) then
    .error ⟨"MODEL_AT_CAPACITY", "model at capacity", 429⟩
  else .ok ()

structure GateDecisionRequest where
  task : TaskId
  gate : GateId
  expectedGateRevision : Nat
  target : ReviewTarget
  action : GateAction
  idempotencyKey : Nat
  actorFingerprint : Nat

def GateAction.gateStatus : GateAction → GateStatus
  | .reject => .rejected
  | _ => .released

/-- The decision row of a request. -/
def GateDecisionRequest.row (request : GateDecisionRequest) (team : TeamId) : DecisionRow where
  team := team
  gate := request.gate
  expectedGateRevision := request.expectedGateRevision
  action := request.action
  actorFingerprint := request.actorFingerprint
  idempotencyKey := request.idempotencyKey
  target := request.target

/-- A decided gate still controls the Execution it was opened for. -/
def GateRow.controls (gate : GateRow) (g : GateId) (row : ExecutionRow) : Bool :=
  row.team == gate.team && row.task == gate.task && row.generation == gate.generation &&
    row.status == .waiting && row.waitingRef == some (.gate g) &&
    row.rowRevision == gate.target.expectedExecutionRevision

/-- `decide_gate`: the decision, and whether it was a replay. -/
def decideGateTx (d : Deployment) (now : Time) (request : GateDecisionRequest) : Tx (DecisionId × Bool) := do
  let db ← get
  let task ← orRaise ((db.tasks.get? request.task).filter fun task => !task.deleted)
    (notFoundError "task-not-found" "Task was not found")
  let gate ← orRaise ((db.gates.get? request.gate).filter fun gate => gate.task == request.task)
    (notFoundError "gate-not-found" "Gate was not found")
  match (db.decisions.select fun _ r => r.gate == request.gate && r.idempotencyKey == request.idempotencyKey).head? with
  | some (id, existing) => do
    raiseIf (existing != request.row task.team)
      (conflictError "gate-idempotency-conflict" "Gate idempotency key was reused with a different decision")
    pure (id, true)
  | none => do
    if request.action == .approve || request.action == .reclean then
      ofExcept (assertModelCapacityAllowed d task.priority task.requestIntent)
    raiseIf (gate.status != .opened) (conflictError "gate-terminal" "Gate is already terminal")
    raiseIf (gate.gateRevision != request.expectedGateRevision)
      (conflictError "gate-revision-conflict" "Gate revision is stale")
    raiseIf (gate.target != request.target) (conflictError "gate-target-conflict" "Gate target digest is stale")
    raiseIf (!gate.target.allowedActions.contains request.action)
      (conflictError "gate-action-not-allowed" "Action is not allowed for this gate target")
    raiseIf (!(db.executions.get? gate.execution).any (gate.controls request.gate))
      (conflictError "gate-execution-stale" "Gate no longer controls the expected execution")
    let decision := db.decisions.next
    modify fun db => { db with decisions := db.decisions.insert (request.row task.team) }
    let updated ← casGate request.gate
      (fun g => g.status == .opened && g.gateRevision == request.expectedGateRevision) fun g =>
      { g with status := request.action.gateStatus, gateRevision := g.gateRevision + 1 }
    raiseIf (!updated)
      (conflictError "gate-revision-conflict" "Gate changed while the decision was being committed")
    enqueueTx now task.team (.gateDecision decision (some request.task) (some gate.generation)) (.gateDecision decision)
    pure (decision, false)

/-! ### the consumer -/

/-- `_control_step` for one control key. -/
def controlStep (plan : WorkflowDefinition) (controlKey : String) : Except MkbError WorkflowStepDefinition :=
  match plan.steps.filter fun step => step.stepKind == .control && step.controlKey == some controlKey with
  | [step] => .ok step
  | _ => .error ⟨"gate-control-mismatch", "Gate does not belong to the bound workflow control step", 409⟩

/-- The Item rows one review action rewrites. -/
def GateAction.reviewedState : GateAction → IntakeLifecycle
  | .reject => .active
  | _ => .deactivated

/-- The rewrite of one reviewed Item. -/
def IntakeItemRow.review (now : Time) (action : GateAction) (item : IntakeItemRow) : IntakeItemRow :=
  match action with
  | .reject =>
    { item with
      lifecycleState := .deactivated
      servingRevision := none
      deactivatedAt := some now
      rowRevision := item.rowRevision + 1 }
  | _ => { item with lifecycleState := .active, deactivatedAt := none, rowRevision := item.rowRevision + 1 }

/-- `_apply_human_review_item_lifecycle_tx`: approval activates the reviewed Items, rejection leaves them
non-active. -/
def applyHumanReviewItemLifecycle (now : Time) (action : GateAction) (row : ExecutionRow) (db : Database) : Database :=
  match row.intakeSnapshot with
  | none => db
  | some snapshot =>
    let items := db.facts.items.update
      (fun id item => item.team == row.team && item.lifecycleState == action.reviewedState &&
        (db.facts.snapshotItems snapshot).contains id)
      fun _ item => item.review now action
    { db with facts := { db.facts with items := items } }

/-- The resumption of the Execution that waits on a decided gate. -/
def resumeFromGateTx (e : ExecutionId) (g : GateId) (row : ExecutionRow) : Tx ExecutionRow := do
  if row.status != .waiting then pure row
  else do
    let resumed ← casExecution e (fun r => r.status == .waiting && r.waitingRef == some (.gate g)) fun r =>
      { r with
        status := .ready
        waitingReason := none
        waitingRef := none
        nextWakeAt := none
        rowRevision := r.rowRevision + 1 }
    raiseIf (!resumed) (conflictError "gate-execution-projection-missing"
      "Gate decision could not resume the waiting Execution")
    execution e

/-- The selector and the terminal error an action is routed with. -/
def gateSelector (action : GateAction) : Except MkbError (WorkflowOutcomeSelector × Option String) :=
  match action with
  | .approve => .ok (.succeeded, none)
  | .reject => .ok (.failed, some "gate-rejected")
  | .reclean => .error ⟨"gate-action-route-unavailable", "No declared reclean route exists for this workflow", 409⟩

/-- The route of a consumed decision: the control step, its decision, and the context it was taken in. -/
def gateRoute (d : Deployment) (db : Database) (e : ExecutionId) (row : ExecutionRow) (gateKind : String)
    (action : GateAction) : Except MkbError (WorkflowDefinition × RouteDecision × RouteContext × Option String) := do
  let plan ← assertExecutionBinding d row
  let control ← controlStep plan gateKind
  let (selector, terminalError) ← gateSelector action
  if row.status != .running && row.status != .ready then
    .error (conflictError "gate-execution-projection-missing" (if action = .reject then
      "Rejected Gate has no routable Execution" else "Gate decision was not projected to a resumable Execution"))
  else
    let typed := { typedRouteContext d db e row with gateAction := some action }
    let decision ← routeDecision plan e row control.stepKey selector typed
    .ok (plan, decision, typed, terminalError)

/-- `consume_gate_decision`. -/
def consumeGateDecisionTx (d : Deployment) (now : Time) (decision : DecisionId) : Tx Bool := do
  let db ← get
  let (record, gate) ← orRaise ((db.decisions.get? decision).bind fun r => (db.gates.get? r.gate).map fun g => (r, g))
    (notFoundError "gate-decision-not-found" "Execution Gate decision was not found")
  raiseIf (!gate.target.allowedActions.contains record.action)
    (conflictError "gate-action-not-allowed" "Gate action is not allowed by its frozen review target")
  raiseIf (record.target != gate.target) (conflictError "gate-target-digest-conflict"
    "Gate decision does not bind the current frozen review target")
  raiseIf (gate.status != record.action.gateStatus)
    (conflictError "gate-decision-state-conflict" "Gate terminal state does not match its decision")
  let e := gate.execution
  let row ← execution e
  if row.status == .cancelling || row.status == .cancelled then pure true
  else if row.status.isTerminal then pure false
  else do
    let row ← resumeFromGateTx e record.gate row
    let db ← get
    let (plan, decision, typed, terminalError) ← ofExcept (gateRoute d db e row gate.gateKind record.action)
    modify (applyHumanReviewItemLifecycle now record.action row)
    let changed ← applyRoutesTx d now plan e row decision none typed terminalError
    refreshExecutionCountsTx e
    pure changed

end KnowledgeBase
