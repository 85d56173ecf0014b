import KnowledgeBase.Engine.Routing
import KnowledgeBase.Engine.Terminal

/-!
# Taking routes

What the engine does at the end of a route: a Process is materialized under the key of the decision that led to
it, a control is entered, or the Execution is terminalized. A selected-output control projects one candidate and
routes on at once, so a route can be followed through several such controls; `applyRoutesTx` gives the recursion
as many levels as the plan has steps.
-/

namespace KnowledgeBase

/-! ### the input of a Process -/

/-- The row with the latest completion, an open one counting as the earliest; the first row on ties. -/
def Database.latestCompleted : List ProcessRecord → Option ProcessRecord
  | [] => none
  | r :: rest =>
    match latestCompleted rest with
    | none => some r
    | some q => if (r.2.completedAt.map (· + 1)).getD 0 < (q.2.completedAt.map (· + 1)).getD 0 then some q
      else some r

def Database.selectedOutput? (db : Database) (e : ExecutionId) (controlStepKey : String) :
    Option SelectedOutputRow :=
  ((db.selectedOutputs.select fun _ r => r.execution == e && r.controlStepKey == controlStepKey).head?).map (·.2)

/-- The succeeded output a prior-output binding reads, with the time it was completed. -/
def priorOutput? (db : Database) (plan : WorkflowDefinition) (e : ExecutionId) (sourceStepKey : String) :
    Option (Option Ref × Time) :=
  if ((plan.step? sourceStepKey).bind (·.controlKey)) == some "selected_output" then
    (db.selectedOutput? e sourceStepKey).map fun r => (some r.outputManifest, r.projectedAt)
  else do
    let (_, p) ← Database.latestCompleted (db.processes.select fun _ p => p.execution == e && p.stepKey == sourceStepKey)
    if p.status = .succeeded then some (p.outputManifest, p.completedAt.getD 0) else none

/-- The primary input after the bindings of the list, the most recently completed predecessor winning. -/
def primaryInput (db : Database) (plan : WorkflowDefinition) (e : ExecutionId) (step : WorkflowStepDefinition) :
    List WorkflowBindingDefinition → Option Ref × Time → Except MkbError (Option Ref × Time)
  | [], primary => .ok primary
  | binding :: bindings, primary =>
    match binding.sourceKind, binding.sourceStepKey with
    | .priorOutput, some sourceStepKey =>
      match priorOutput? db plan e sourceStepKey with
      | some (ref, completedAt) =>
        primaryInput db plan e step bindings (if primary.2 ≤ completedAt then (ref, completedAt) else primary)
      | none =>
        if (step.inputPorts.find? fun port => port.slotName == binding.targetSlotName).any fun port => !port.required
        then primaryInput db plan e step bindings primary
        else .error ⟨"workflow-binding-unavailable", "Required prior output is not a terminal success", 409⟩
    | _, _ => primaryInput db plan e step bindings primary

/-- The input handle of Executions that predate root manifests. -/
def fallbackInput : Ref := 0

/-- `_input_manifest_tx`: the input object of a Process. -/
def inputManifest (db : Database) (plan : WorkflowDefinition) (e : ExecutionId) (row : ExecutionRow)
    (step : WorkflowStepDefinition) : Except MkbError Ref := do
  let primary ← primaryInput db plan e step
    (plan.bindings.filter fun binding => binding.targetStepKey == step.stepKey) (none, 0)
  .ok (primary.1.getD (row.manifest.getD fallbackInput))

/-! ### materialization -/

/-- The Process a decision already materialized at a step. -/
def Database.materialized (db : Database) (e : ExecutionId) (stepKey : String) (key : RouteDecisionPayload) : Bool :=
  db.processes.any fun _ p => p.execution == e && p.stepKey == stepKey && p.materializationKey == key

/-- `projected_actual_digest`. -/
def ExecutionRow.projectedActualDigest (row : ExecutionRow) : Option ActualSeal :=
  if row.bindingState = .sealed then row.binding else none

/-- The fence of the clean boundary on materialization. -/
def actualBindingError (row : ExecutionRow) (intent : RequestIntent) (processKey : String) : Option MkbError :=
  if requiresActualBinding processKey && !intent.skipsActualBinding then
    if row.bindingState = .unsealed then
      some (conflictError "ACTUAL_S05_UNSEALED"
        "A clean-or-later Process cannot materialize before actual S05 is sealed")
    else if row.bindingState = .sealed && row.projectedActualDigest.isNone then
      some ⟨"ACTUAL_S05_INTEGRITY", "Sealed actual S05 state lacks a valid digest", 503⟩
    else none
  else none

/-- The Process row a materialization inserts. -/
def newProcess (d : Deployment) (now : Time) (e : ExecutionId) (row : ExecutionRow) (task : TaskRow)
    (step : WorkflowStepDefinition) (key : RouteDecisionPayload) (input : Ref) : ProcessRow where
  team := row.team
  execution := e
  task := row.task
  root := row.root
  stepKey := step.stepKey
  processKey := step.processKey.getD ""
  contractVersion := step.contractVersion.getD ""
  materializationKey := key
  inputManifest := input
  configSnapshot := row.configSnapshot
  availableAt := now
  priorityRank := task.priority.rank
  deadlineAt := task.deadlineAt
  createdAt := now
  maxRetries := d.defaultMaxRetries
  maxRecoveries := d.defaultMaxRecoveries
  safeReplay := !generateProcessKeys.contains (step.processKey.getD "") &&
    !overBudgetProcessKeys.contains (step.processKey.getD "") && step.processKey != some "lsrag.vectorize"

/-- The Process row with its wake, made the current Process of its Execution. -/
def insertProcessTx (now : Time) (e : ExecutionId) (process : ProcessRow) : Tx Unit := do
  let p := (← get).processes.next
  modify fun db => { db with processes := db.processes.insert process }
  let updated ← casExecution e (fun r => !r.status.isTerminal && r.status != .cancelling) fun r =>
    { r with
      status := .ready
      waitingReason := none
      waitingRef := none
      nextWakeAt := none
      currentProcess := some p
      rowRevision := r.rowRevision + 1 }
  raiseIf (!updated) (conflictError "PROCESS_MATERIALIZATION_EXECUTION_FENCE"
    "Execution changed before its Process could be materialized")
  enqueueTx now process.team (.wakeProcess e p) (.materializeProcess p)

/-- `_materialize_process_tx`. -/
def materializeProcessTx (d : Deployment) (now : Time) (plan : WorkflowDefinition) (e : ExecutionId)
    (row : ExecutionRow) (step : WorkflowStepDefinition) (key : RouteDecisionPayload) : Tx Bool := do
  let db ← get
  raiseIf (!(d.revisions.lookup row.workflowRevision).any fun revision => revision.stepKeys.contains step.stepKey)
    ⟨"workflow-step-missing", "Bound workflow step is absent from the registry", 503⟩
  let task ← orRaise (db.tasks.get? row.task)
    ⟨"workflow-task-missing", "Execution has no owning Task scheduling contract", 409⟩
  ofExcept (match actualBindingError row task.requestIntent (step.processKey.getD "") with
    | some error => .error error
    | none => .ok ())
  let input ← ofExcept (inputManifest db plan e row step)
  if db.materialized e step.stepKey key then pure false
  else do
    insertProcessTx now e (newProcess d now e row task step key input)
    pure true

/-! ### the human-review gate -/

/-- The evidence a review target is built from. -/
structure ReviewEvidence where
  acceptProcess : ProcessId
  preflightProcess : ProcessId
  snapshot : SnapshotId
  artifact : Ref

/-- The one succeeded and proved preflight Process whose output is the input of the accept Process. -/
def preflightOf (db : Database) (e : ExecutionId) (accepted : ProcessRow) (unbound unproved : String) :
    Except String ProcessId :=
  match db.processes.select fun _ p => p.execution == e && p.stepKey == "preflight_validate" &&
      p.processKey == "intake.preflight_validate" && p.status == .succeeded &&
      p.outputManifest == some accepted.inputManifest with
  | [(id, p)] => if p.proof.isSome then .ok id else .error unproved
  | _ => .error unbound

/-- `_human_review_evidence_tx`. -/
def humanReviewEvidence (db : Database) (e : ExecutionId) (source : Option ProcessId) :
    Except String ReviewEvidence :=
  match source with
  | none => .error "Human-review Gate has no source Process"
  | some id =>
    match (db.processes.get? id).filter fun p => p.execution == e && Database.isAcceptSnapshot p &&
        p.outputManifest.isSome && p.proof.isSome with
    | none => .error "Human-review Gate requires a succeeded accept_snapshot Process with immutable evidence"
    | some accepted =>
      match preflightOf db e accepted "Accepted snapshot is not bound to exactly one succeeded preflight output"
          "Preflight outcome has no immutable completion proof" with
      | .error message => .error message
      | .ok preflight =>
        match db.facts.reviewEvidence.filter fun r => r.execution == e && r.preflightOutput == accepted.inputManifest
        with
        | [r] => .ok ⟨id, preflight, r.snapshot, r.artifact⟩
        | _ => .error "Human-review Gate requires one exact accepted Intake evidence set"

/-- `_scatter_human_review_evidence_tx`. -/
def scatterHumanReviewEvidence (db : Database) (e : ExecutionId) (row : ExecutionRow) (source : Option ProcessId) :
    Except String ReviewEvidence :=
  match source with
  | none => .error "Scatter human-review Gate has no source Process"
  | some id =>
    match (db.processes.get? id).filter fun p => p.execution == e && Database.isAcceptSnapshot p &&
        p.outputManifest.isSome && p.proof.isSome with
    | none => .error "Scatter Gate requires a succeeded accept_snapshot Process with immutable evidence"
    | some accepted =>
      match db.acceptance? row.task e with
      | none => .error "Scatter Gate has no accepted Snapshot/ChangeSet"
      | some (snapshot, _) =>
        match (db.facts.reviewEvidence.filter fun r => r.execution == e && r.preflightOutput == accepted.inputManifest &&
            r.snapshot == snapshot).head? with
        | none => .error "Scatter Gate Snapshot is not exactly bound to the accepted Process"
        | some r =>
          match preflightOf db e accepted "Scatter accepted Snapshot is not bound to one proved preflight outcome"
              "Scatter accepted Snapshot is not bound to one proved preflight outcome" with
          | .error message => .error message
          | .ok preflight => .ok ⟨id, preflight, r.snapshot, r.artifact⟩

/-- The gate a review of an Execution is opened under. -/
def newGate (g : GateId) (e : ExecutionId) (current : ExecutionRow) (gateKind : String) (key : RouteDecisionPayload)
    (evidence : ReviewEvidence) : GateRow where
  team := current.team
  task := current.task
  execution := e
  generation := current.generation
  gateKind := gateKind
  target := {
    gate := g
    expectedExecutionRevision := current.rowRevision + 1
    routeDecision := key
    acceptProcess := evidence.acceptProcess
    preflightProcess := evidence.preflightProcess
    snapshot := evidence.snapshot
    artifact := evidence.artifact
    allowedActions := [.approve, .reject] }

/-- The gate row with its frozen target, and the wait of the Execution on it. -/
def openGateTx (e : ExecutionId) (current : ExecutionRow) (gateKind : String) (key : RouteDecisionPayload)
    (evidence : ReviewEvidence) : Tx Unit := do
  let g := (← get).gates.next
  modify fun db => { db with gates := db.gates.insert (newGate g e current gateKind key evidence) }
  let updated ← casExecution e (fun r => r.rowRevision == current.rowRevision && !r.status.isTerminal &&
      r.status != .cancelling) fun r =>
    { r with
      status := .waiting
      waitingReason := some .humanReview
      waitingRef := some (.gate g)
      nextWakeAt := none
      rowRevision := r.rowRevision + 1 }
  raiseIf (!updated) (conflictError "execution-transition-conflict"
    "Execution could not enter the human-review wait")

/-- The gate branch of `_enter_control_tx`. -/
def enterHumanReviewGateTx (now : Time) (e : ExecutionId) (step : WorkflowStepDefinition)
    (key : RouteDecisionPayload) (source : Option ProcessId) (context : RouteContext) : Tx Bool := do
  let gateKind := step.controlKey.getD ""
  let db ← get
  if db.gates.any fun _ g => g.execution == e && g.gateKind == gateKind && g.status == .opened then pure false
  else do
    let current ← execution e
    if current.status.isTerminal || current.status == .cancelling then pure false
    else
      let evidence :=
        if context.admissionResult != some .humanReviewRequired then
          .error "Human-review routing lacks the required admission result"
        else if current.role == .scatterRoot then scatterHumanReviewEvidence db e current source
        else humanReviewEvidence db e source
      match evidence with
      | .error message => do
        failExecutionIntegrityTx now e "gate-target-evidence-invalid" message
        pure false
      | .ok evidence =>
        match current.projectedActualDigest with
        | none => do
          failExecutionIntegrityTx now e "ACTUAL_S05_UNSEALED"
            "A human Gate cannot freeze an unsealed actual S05 target"
          pure false
        | some _ => do
          openGateTx e current gateKind key evidence
          pure true

/-! ### the scatter join -/

/-- A child that waits on the release of its collection. -/
def ExecutionRow.awaitsRelease (changeSet : ChangeSetId) (c : ExecutionRow) : Bool :=
  c.status == .waiting && c.waitingReason == some .durablePrerequisite && c.waitingRef == some (.changeSet changeSet)

/-- The release of one child. -/
def releaseScatterChildTx (now : Time) (row : ExecutionRow) (changeSet : ChangeSetId)
    (child : ExecutionId × ExecutionRow) : Tx Unit := do
  let updated ← casExecution child.1 (·.awaitsRelease changeSet) fun c =>
    { c with
      status := .ready
      waitingReason := none
      waitingRef := none
      nextWakeAt := none
      rowRevision := c.rowRevision + 1 }
  if updated then
    enqueueTx now row.team (.wakeExecution child.1 (some child.2.task) (some child.2.generation))
      (.scatterChildRelease child.1 changeSet)

/-- `_release_scatter_children_tx`. -/
def releaseScatterChildrenTx (now : Time) (root : ExecutionId) (row : ExecutionRow) (changeSet : ChangeSetId) :
    Tx Unit := do
  let children := (← get).executions.select fun _ c => c.parent == some root && c.root == root &&
    c.role == .scatterChild && c.awaitsRelease changeSet
  forEach children (releaseScatterChildTx now row changeSet)

/-- The wait of a root on its released children. -/
def joinWaitTx (e : ExecutionId) (changeSet : ChangeSetId) : Tx Bool :=
  casExecution e (fun r => !r.status.isTerminal && r.status != .cancelling) fun r =>
    { r with
      status := .waiting
      waitingReason := some .scatterChildren
      waitingRef := some (.changeSet changeSet)
      nextWakeAt := none
      currentProcess := none
      rowRevision := r.rowRevision + 1 }

/-- `_enter_scatter_children_join_tx`. -/
def enterScatterChildrenJoinTx (now : Time) (e : ExecutionId) (key : RouteDecisionPayload)
    (source : Option ProcessId) : Tx Bool := do
  let current ← execution e
  let db ← get
  if current.status.isTerminal || current.status == .cancelling then pure false
  else match (db.acceptance? current.task e).filter fun a => current.intakeSnapshot == some a.1 with
    | none => do
      failExecutionIntegrityTx now e "scatter-acceptance-binding-missing"
        "Scatter join has no exact accepted Snapshot and ChangeSet binding"
      pure false
    | some (snapshot, changeSet) =>
      match db.facts.scatterExpectedMembers snapshot changeSet with
      | none => do
        failExecutionIntegrityTx now e "scatter-required-set-invalid"
          "Scatter ChangeSet does not match the accepted required membership set"
        pure false
      | some [] =>
        match db.scatterRootTerminalProof e source with
        | none => do
          failExecutionIntegrityTx now e "scatter-zero-proof-missing"
            "Zero-member Scatter Snapshot has no immutable acceptance proof"
          pure false
        | some proof => do
          terminalizeExecutionTx now e (some .success) (some proof) (.decision key) none (some .exhaustedZero)
          pure true
      | some _ => do
        releaseScatterChildrenTx now e current changeSet
        let updated ← joinWaitTx e changeSet
        refreshExecutionCountsTx e
        pure updated

/-! ### selected output and the routes of a decision -/

structure OutputCandidate where
  port : String
  source : Option ProcessRecord
  outputManifest : Ref
  fallbackUsed : Bool

/-- The succeeded outputs of one binding's source step; `none` if one of them has no output manifest. -/
def bindingCandidates (db : Database) (e : ExecutionId) (binding : WorkflowBindingDefinition) :
    Option (List OutputCandidate) :=
  match binding.sourceKind, binding.sourceStepKey with
  | .priorOutput, some sourceStepKey =>
    (db.processes.select fun _ p => p.execution == e && p.stepKey == sourceStepKey && p.status == .succeeded).mapM
      fun r => r.2.outputManifest.map fun ref => ⟨binding.targetSlotName, some r, ref, false⟩
  | _, _ => some []

def outputCandidates (db : Database) (e : ExecutionId) (bindings : List WorkflowBindingDefinition) :
    Option (List OutputCandidate) :=
  (bindings.mapM (bindingCandidates db e)).map List.flatten

/-- The fallback of a selected-output control without candidates: the Execution's own input. -/
def fallbackCandidate (step : WorkflowStepDefinition) (row : ExecutionRow)
    (bindings : List WorkflowBindingDefinition) : List OutputCandidate :=
  match step.controlFallbackPort with
  | none => []
  | some port =>
    match bindings.find? fun binding => binding.targetSlotName == port with
    | none => []
    | some binding =>
      match binding.sourceKind, row.manifest with
      | .executionContext, some ref => [⟨binding.targetSlotName, none, ref, true⟩]
      | _, _ => []

/-- The selected row without its proof: the columns `_enter_selected_output_tx` reads. -/
def OutputCandidate.sourceRecord (candidate : OutputCandidate) : Option ProcessRecord :=
  candidate.source.map fun r => (r.1, { r.2 with proof := none })

/-- The durable projection of a selection, unless there is one. -/
def recordSelectedOutputTx (selection : SelectedOutputRow) : Tx Unit :=
  modify fun db => match db.selectedOutput? selection.execution selection.controlStepKey with
    | none => { db with selectedOutputs := db.selectedOutputs.insert selection }
    | some _ => db

abbrev ApplyRoutes := ExecutionId → ExecutionRow → RouteDecision → Option ProcessRecord → RouteContext →
  Option String → Tx Bool

section routing

variable (d : Deployment) (now : Time) (plan : WorkflowDefinition) (apply : ApplyRoutes)

/-- `_enter_selected_output_tx`. -/
def enterSelectedOutputWith (e : ExecutionId) (step : WorkflowStepDefinition) (key : RouteDecisionPayload) :
    Tx Bool := do
  let current ← execution e
  let db ← get
  let bindings := plan.bindings.filter fun binding => binding.targetStepKey == step.stepKey
  if current.status.isTerminal || current.status == .cancelling then pure false
  else match outputCandidates db e bindings with
    | none => do
      failExecutionIntegrityTx now e "workflow-selected-output-proof-invalid"
        "Selected-output candidate lacks a durable output manifest"
      pure false
    | some found =>
      match if found.isEmpty then fallbackCandidate step current bindings else found with
      | [] => do
        failExecutionIntegrityTx now e "workflow-selected-output-missing"
          "Selected-output CONTROL has no committed candidate"
        pure false
      | [selected] => do
        let selection : SelectedOutputRow := {
          execution := e
          controlStepKey := step.stepKey
          candidatePort := selected.port
          sourceProcess := selected.source.map (·.1)
          acceptedOutcomeDigest := selected.source.bind (·.2.acceptedOutcomeDigest)
          outputManifest := selected.outputManifest
          representationFact := (db.facts.latestRepresentation e).map (·.factDigest)
          routeDecision := key
          fallbackUsed := selected.fallbackUsed
          projectedAt := now }
        recordSelectedOutputTx selection
        if ((← get).selectedOutput? e step.stepKey).any fun durable => { durable with projectedAt := now } == selection
        then do
          let decision ← ofExcept (routeDecision plan e current step.stepKey .succeeded {})
          apply e current decision selected.sourceRecord {} none
        else do
          failExecutionIntegrityTx now e "workflow-selected-output-conflict"
            "Selected-output CONTROL conflicts with its prior durable projection"
          pure false
      | _ => do
        failExecutionIntegrityTx now e "workflow-selected-output-conflict"
          "Selected-output CONTROL observed more than one committed candidate"
        pure false

/-- `_enter_control_tx`. -/
def enterControlWith (e : ExecutionId) (step : WorkflowStepDefinition) (key : RouteDecisionPayload)
    (source : Option ProcessRecord) (context : RouteContext) : Tx Bool :=
  if step.controlKey == some "scatter_children_join" then
    enterScatterChildrenJoinTx now e key (source.map (·.1))
  else if step.controlKey == some "selected_output" then enterSelectedOutputWith now plan apply e step key
  else if step.controlKey == some "human_review_gate" then
    enterHumanReviewGateTx now e step key (source.map (·.1)) context
  else throw ⟨"workflow-control-unsupported", "Only the bounded human-review control is supported", 409⟩

/-- One route of a decision. -/
def applyRouteWith (e : ExecutionId) (row : ExecutionRow) (key : RouteDecisionPayload)
    (source : Option ProcessRecord) (context : RouteContext) (terminalError : Option String)
    (route : WorkflowRouteDefinition) : Tx Bool :=
  match plan.step? route.toStepKey with
  | none => do
    failExecutionIntegrityTx now e "workflow-target-missing"
      "A route targeted a step absent from the immutable execution plan"
    pure false
  | some target =>
    match target.stepKind with
    | .terminal => do
      terminalizeExecutionTx now e target.terminalKind source (.decision key) terminalError
        (if context.operationMode == some .indexRebuildNoop then some .exhaustedZero else none)
      pure true
    | .process => materializeProcessTx d now plan e row target key
    | .control => enterControlWith now plan apply e target key source context
    | _ => do
      failExecutionIntegrityTx now e "workflow-target-invalid" "A route targeted a non-actionable workflow step"
      pure false

/-- `_apply_routes_tx`. -/
def applyRoutesWith : ApplyRoutes := fun e row decision source context terminalError =>
  if decision.routes.isEmpty then do
    failExecutionIntegrityTx now e "workflow-route-unmatched"
      "No deterministic route matched the terminal Process outcome"
    pure false
  else anyEach decision.routes (applyRouteWith d now plan apply e row decision.payload source context terminalError)

/-- Routes followed through at most `depth` selected-output controls. -/
def applyRoutesDepth : Nat → ApplyRoutes
  | 0 => applyRoutesWith d now plan fun _ _ _ _ _ _ =>
    throw ⟨"RecursionError", "maximum recursion depth exceeded", 500⟩
  | depth + 1 => applyRoutesWith d now plan (applyRoutesDepth depth)

/-- `_apply_routes_tx`, through as many selected-output controls as the plan has steps. -/
def applyRoutesTx : ApplyRoutes := applyRoutesDepth d now plan plan.steps.length

end routing

/-! ### routing after a terminal Process -/

/-- `seal_actual_binding_tx`, on an Execution that is not sealed. -/
def sealActualBindingTx (e : ExecutionId) (key : RouteDecisionPayload) (cleanStepKey cleanProcessKey : String)
    (strategy : CleanStrategy) : Tx Unit := do
  let representation ← orRaise ((← get).facts.latestRepresentation e) (conflictError "ACTUAL_S05_HISTORY_MISSING"
    "A clean route cannot be selected without durable ordered representation history")
  let sealed ← casExecution e (fun r => r.bindingState == .unsealed && r.binding.isNone) fun r =>
    { r with
      bindingState := .sealed
      binding := some ⟨representation.pathDigest, key, cleanStepKey, cleanProcessKey, strategy⟩
      rowRevision := r.rowRevision + 1 }
  raiseIf (!sealed) (conflictError "ACTUAL_S05_SEAL_CONFLICT"
    "Actual S05 seal lost its compare-and-swap fence")

/-- The clean workers a decision selects. -/
def cleanTargets (plan : WorkflowDefinition) (decision : RouteDecision) : List (String × String) :=
  decision.routes.filterMap fun route => do
    let target ← plan.step? route.toStepKey
    let processKey ← target.processKey
    if hasPrefix "clean." processKey then some (target.stepKey, processKey) else none

/-- The seal a decision for a clean worker needs before it is applied; returns the row as it is applied to. -/
def sealCleanRouteTx (e : ExecutionId) (row : ExecutionRow) (plan : WorkflowDefinition) (decision : RouteDecision)
    (intent : Option RequestIntent) : Tx ExecutionRow :=
  match cleanTargets plan decision with
  | [] => pure row
  | (stepKey, processKey) :: others =>
    if row.bindingState == .legacyUnverifiable || intent.any (·.skipsActualBinding) then pure row
    else do
      raiseIf (!others.isEmpty) (conflictError "ACTUAL_S05_CLEAN_ROUTE_AMBIGUOUS"
        "One route decision cannot seal multiple clean workers")
      let strategy ← ofExcept (cleanStrategyForStep stepKey processKey)
      if row.bindingState == .sealed then
        raiseIf (!row.binding.any fun b => b.cleanStepKey == stepKey && b.cleanProcessKey == processKey &&
            b.cleanStrategy == strategy)
          (conflictError "ACTUAL_S05_SEAL_CONFLICT" "A sealed execution cannot select a different clean worker")
      else sealActualBindingTx e decision.payload stepKey processKey strategy
      execution e

/-- `_route_after_terminal_process_tx`. -/
def routeAfterTerminalProcessTx (d : Deployment) (now : Time) (e : ExecutionId) (row : ExecutionRow)
    (process : ProcessRecord) (selector : WorkflowOutcomeSelector) (extra : OutcomeExtra)
    (terminalError : Option String) : Tx Unit := do
  let plan ← ofExcept (assertExecutionBinding d row)
  let db ← get
  let typed := { typedRouteContext d db e row with
    operationMode := extra.operationMode
    gateAction := extra.gateAction }
  let decision ← ofExcept (routeDecision plan e row process.2.stepKey selector typed)
  let row ← sealCleanRouteTx e row plan decision typed.requestIntent
  let _ ← applyRoutesTx d now plan e row decision (some process) typed terminalError

end KnowledgeBase
