import KnowledgeBase.Engine.Gates

/-!
# Resolving a gate in one transaction

`resolve_gate` closes an open gate, records the decision and routes on from the gate's control step in one
transaction, where the Task surface leaves the last part to the consumer of its decision. Both select a route
before they take it; `GateRouting` is what they have in hand then.
-/

namespace KnowledgeBase

/-- An Execution that is about to leave its gate by the routes of a decision. -/
structure GateRouting where
  plan : WorkflowDefinition
  execution : ExecutionId
  row : ExecutionRow
  decision : RouteDecision
  context : RouteContext
  terminalError : Option String

/-- The routes of a decision, taken without a source Process. -/
def GateRouting.takeTx (d : Deployment) (now : Time) (routing : GateRouting) : Tx Bool := do
  let changed ← applyRoutesTx d now routing.plan routing.execution routing.row routing.decision none routing.context
    routing.terminalError
  refreshExecutionCountsTx routing.execution
  pure changed

/-! ### the resolver -/

/-- A resolution of a gate, with its arguments. -/
structure GateResolution where
  gate : GateId
  expectedGateRevision : Nat
  action : GateAction
  idempotencyKey : Nat
  actorFingerprint : Nat

/-- The decision row of a resolution: it binds the target of the gate. -/
def GateResolution.row (r : GateResolution) (gate : GateRow) : DecisionRow where
  team := gate.team
  gate := r.gate
  expectedGateRevision := r.expectedGateRevision
  action := r.action
  actorFingerprint := r.actorFingerprint
  idempotencyKey := r.idempotencyKey
  target := gate.target

/-- The selector and the terminal error `resolve_gate` routes an action with. -/
def resolveSelector (action : GateAction) : Except MkbError (WorkflowOutcomeSelector × Option String) :=
  match action with
  | .approve => .ok (.succeeded, none)
  | .reject => .ok (.failed, some "gate-reject")
  | .reclean => .error ⟨"gate-action-route-unavailable", "No declared reclean route exists for this workflow", 409⟩

/-- The write that resumes an Execution from its gate. -/
def ExecutionRow.resume (row : ExecutionRow) : ExecutionRow :=
  { row with
    status := .ready
    waitingReason := none
    waitingRef := none
    nextWakeAt := none
    rowRevision := row.rowRevision + 1 }

/-- The row an action is routed on: an approval resumes the Execution, a rejection leaves it waiting. -/
def resolvedRowTx (e : ExecutionId) (g : GateId) (action : GateAction) (row : ExecutionRow) : Tx ExecutionRow :=
  if action == .approve then do
    let _ ← casExecution e (fun r => r.status == .waiting && r.waitingRef == some (.gate g)) ExecutionRow.resume
    execution e
  else pure row

/-- The context `resolve_gate` routes in: the action and no durable fact. -/
def GateAction.context (action : GateAction) : RouteContext := { gateAction := some action }

/-- `resolve_gate`, up to the selection of its route; nothing is routed when the key was used before. -/
def resolvedRoutingTx (d : Deployment) (now : Time) (r : GateResolution) : Tx (Option GateRouting) := do
  let db ← get
  let gate ← orRaise (db.gates.get? r.gate) (notFoundError "gate-not-found" "Execution Gate was not found")
  if db.decisions.any fun _ q => q.gate == r.gate && q.idempotencyKey == r.idempotencyKey then pure none
  else do
    raiseIf (gate.status != .opened || gate.gateRevision != r.expectedGateRevision)
      (conflictError "gate-revision-conflict" "Execution Gate is no longer open at the supplied revision")
    raiseIf (!gate.target.allowedActions.contains r.action)
      (conflictError "gate-action-not-allowed" "Gate action is not allowed by its frozen review target")
    let row ← execution gate.execution
    let plan ← ofExcept (assertExecutionBinding d row)
    raiseIf (row.status != .waiting || row.waitingRef != some (.gate r.gate))
      (conflictError "gate-execution-conflict" "Gate is not the current durable execution wait")
    modify fun db => { db with decisions := db.decisions.insert (r.row gate) }
    let updated ← casGate r.gate (fun g => g.status == .opened && g.gateRevision == r.expectedGateRevision) fun g =>
      { g with status := r.action.gateStatus, gateRevision := g.gateRevision + 1 }
    raiseIf (!updated) (conflictError "gate-revision-conflict" "Execution Gate changed during decision")
    let control ← ofExcept (controlStep plan gate.gateKind)
    let (selector, terminalError) ← ofExcept (resolveSelector r.action)
    modify (applyHumanReviewItemLifecycle now r.action row)
    let row ← resolvedRowTx gate.execution r.gate r.action row
    let decision ← ofExcept (routeDecision plan gate.execution row control.stepKey selector r.action.context)
    pure (some ⟨plan, gate.execution, row, decision, r.action.context, terminalError⟩)

/-- `resolve_gate`. -/
def resolveGateTx (d : Deployment) (now : Time) (r : GateResolution) : Tx Bool := do
  match ← resolvedRoutingTx d now r with
  | none => pure false
  | some routing => do
    let _ ← routing.takeTx d now
    pure true

/-! ### the consumer, up to its route -/

/-- `consume_gate_decision`, up to the selection of its route; a settled Execution is not routed. -/
def consumedRoutingTx (d : Deployment) (now : Time) (decision : DecisionId) : Tx (Bool ⊕ GateRouting) := do
  let db ← get
  let (record, gate) ← orRaise ((db.decisions.get? decision).bind fun r => (db.gates.get? r.gate).map fun g => (r, g))
    (notFoundError "gate-decision-not-found" "Execution Gate decision was not found")
  raiseIf (!gate.target.allowedActions.contains record.action)
    (conflictError "gate-action-not-allowed" "Gate action is not allowed by its frozen review target")
  raiseIf (record.target != gate.target) (conflictError "gate-target-digest-conflict"
    "Gate decision does not bind the current frozen review target")
  raiseIf (gate.status != record.action.gateStatus)
    (conflictError "gate-decision-state-conflict" "Gate terminal state does not match its decision")
  let e := gate.execution
  let row ← execution e
  if row.status == .cancelling || row.status == .cancelled then pure (.inl true)
  else if row.status.isTerminal then pure (.inl false)
  else do
    let row ← resumeFromGateTx e record.gate row
    let db ← get
    let (plan, decision, typed, terminalError) ← ofExcept (gateRoute d db e row gate.gateKind record.action)
    modify (applyHumanReviewItemLifecycle now record.action row)
    pure (.inr ⟨plan, e, row, decision, typed, terminalError⟩)

theorem consumeGateDecisionTx_eq (d : Deployment) (now : Time) (decision : DecisionId) :
    consumeGateDecisionTx d now decision = (do
      match ← consumedRoutingTx d now decision with
      | .inl settled => pure settled
      | .inr routing => routing.takeTx d now) := by
  unfold consumeGateDecisionTx consumedRoutingTx
  simp only [bind_assoc]
  refine bind_congr fun db => bind_congr fun found => bind_congr fun _ => bind_congr fun _ => bind_congr fun _ =>
    bind_congr fun row => ?_
  split
  · simp only [pure_bind]
  · split
    · simp only [pure_bind]
    · simp only [bind_assoc, pure_bind]
      rfl

/-- The Task surface decides, and the consumer then takes the decision up. -/
def decideThenConsumeTx (d : Deployment) (now : Time) (request : GateDecisionRequest) : Tx Bool := do
  let (decision, _) ← decideGateTx d now request
  consumeGateDecisionTx d now decision

end KnowledgeBase
