import KnowledgeBase.Invariant.Route

/-!
# Invariants of the engine

`EngineInvariant` is the interface of the whole system: a route invariant for every list of rows a pass of the
engine has selected and not yet handled, what licenses the operations that may do harm, and what has to be shown of
every write outside the routes. The modules that follow carry such an invariant through every operation.
-/

namespace KnowledgeBase

open Transaction Database

/-- A row that a pass of the engine has selected and will handle later in the same transaction. -/
inductive Pending
  /-- A Process whose lease ran out, or that is about to be failed. -/
  | lease (p : ProcessRecord)
  /-- An Execution whose terminal Process has not been routed. -/
  | stalled (e : ExecutionId) (row : ExecutionRow) (p : ProcessId)
  /-- A waiting Execution. -/
  | wait (e : ExecutionId) (row : ExecutionRow)

/-- The plan pinned by the coordinates of an Execution. -/
def ExecutionIdentity.Pins (i : ExecutionIdentity) (d : Deployment) (plan : WorkflowDefinition) : Prop :=
  ∃ row : ExecutionRow, row.identity = i ∧ assertExecutionBinding d row = .ok plan

namespace Database

/-- Every target of the decision is a Process the decision has materialized already. -/
def Settled (s : Database) (plan : WorkflowDefinition) (e : ExecutionId) (decision : RouteDecision) : Prop :=
  decision.routes ≠ [] ∧ ∀ route ∈ decision.routes, ∃ target, plan.step? route.toStepKey = some target ∧
    target.stepKind = .process ∧ s.materialized e target.stepKey decision.payload = true

/-- An open Execution of given coordinates. -/
def OpenAs (s : Database) (e : ExecutionId) (i : ExecutionIdentity) : Prop :=
  ∃ current, s.executions.get? e = some current ∧ current.identity = i ∧ current.status.isTerminal = false ∧
    current.status ≠ .cancelling

/-- A running Process of an open Execution: what an outcome is accepted for. -/
def Accepting (s : Database) (p : ProcessId) (e : ExecutionId) (row : ExecutionRow) : Prop :=
  (∃ process, s.processes.get? p = some process ∧ process.status = .running ∧ process.execution = e) ∧
    s.OpenAs e row.identity

/-- A Process with a retry left. -/
def MayRetry (s : Database) (p : ProcessId) : Prop :=
  ∃ process, s.processes.get? p = some process ∧ process.retryCount < process.maxRetries

/-- A terminal root as it was selected. -/
def Ended (s : Database) (e : ExecutionId) (row : ExecutionRow) : Prop :=
  row.status.isTerminal = true ∧ row.root = e ∧
    ∃ current, s.executions.get? e = some current ∧ current.status = row.status ∧ current.identity = row.identity

/-- A wait of an Execution that `repair_once` finds without a trigger. -/
def WaitInvalid (s : Database) (e : ExecutionId) (row : ExecutionRow) : Prop :=
  match row.waitingReason with
  | some .scatterChildren => False
  | some .durablePrerequisite => True
  | some .humanReview => s.gateWaitValid e row = false
  | some .retryDue => s.retryWaitValid e row = false
  | none => True

end Database

structure EngineInvariant (d : Deployment) where
  /-- The route invariant while the rows of the list are pending. -/
  during : List Pending → RouteInvariant d
  -- what licenses an operation
  Wake : ExecutionId → Database → Prop
  Consume : DecisionId → Database → Prop
  Dead : ExecutionId → Database → Prop
  Restart : ProcessId → Database → Prop
  dead_core : ∀ {e s t}, t.core = s.core → Dead e s → Dead e t
  -- pending rows
  drop : ∀ {x l o s}, (during (x :: l)).Holds o s → (during l).Holds o s
  pendLeases : ∀ {s} {l : List ProcessRecord}, s.Shaped none → (during []).Holds none s → (l.map (·.1)).Nodup →
    (∀ p ∈ l, s.processes.get? p.1 = some p.2 ∧ p.2.status.isActive = true) →
    (during (l.map .lease)).Holds none s
  pendStalled : ∀ {s}, s.Shaped none → (during []).Holds none s →
    (during (s.stalled.map fun r => .stalled r.1 r.2.1 r.2.2)).Holds none s
  pendWaits : ∀ {s}, s.Shaped none → (during []).Holds none s →
    (during ((s.executions.select fun _ row => row.status == .waiting).map fun r => .wait r.1 r.2)).Holds none s
  -- workers
  admitWaiting : ∀ now, Triple (fun s => s.Shaped none ∧ (during []).Holds none s) (admitWaitingProcessesTx d now)
    fun _ => (during []).Holds none
  claimCandidate : ∀ now request c,
    Triple (fun s => (s.Shaped none ∧ (during []).Holds none s) ∧ s.claimCandidate d now = some c)
      (claimCandidateTx now request c) fun _ => (during []).Holds none
  markRunning : ∀ now p fence, Triple (fun s => s.Shaped none ∧ (during []).Holds none s) (markRunningTx now p fence)
    fun _ => (during []).Holds none
  heartbeat : ∀ now p fence leaseSeconds,
    Triple (fun s => s.Shaped none ∧ (during []).Holds none s) (heartbeatTx now p fence leaseSeconds)
      fun _ => (during []).Holds none
  -- outcomes
  acceptSnapshot : ∀ p e row snapshot changeSet,
    Triple (fun s => (s.Shaped none ∧ (during []).Holds none s) ∧ s.Accepting p e row)
      (acceptSnapshotTx e row.task snapshot changeSet) fun _ => (during []).Holds none
  bindCollection : ∀ p e row acceptance,
    Triple (fun s => (s.Shaped none ∧ (during []).Holds none s) ∧ s.Accepting p e row)
      (bindCollectionTx e row.task acceptance) fun _ => (during []).Holds none
  insertChild : ∀ now p e row root acceptance member, root.identity = row.identity → root.root = e →
    Triple (fun s => (s.Shaped none ∧ (during []).Holds none s) ∧ s.Accepting p e row ∧ s.Recalls e root)
      (insertChildExecutionTx now e root acceptance member) fun _ => (during []).Holds none
  succeed : ∀ now p e row (outcome : ProcessOutcome), outcome.outputManifest.isSome → outcome.proof.isSome →
    Triple (fun s => (s.Shaped none ∧ (during []).Holds none s) ∧ s.Accepting p e row) (succeedProcessTx now p outcome)
      fun _ s => (during []).Holds none s ∧ ∀ accepted plan context, s.processes.get? p = some accepted →
        row.identity.Pins d plan → (during []).Holds (some ⟨e, row.identity,
          .route plan accepted.stepKey .succeeded (some (p, accepted)) context true⟩) s
  failEnter : ∀ now l p errorCode failureDisposition acceptedOutcome,
    Triple (fun s => (s.Shaped none ∧ (during (.lease p :: l)).Holds none s) ∧
        ∃ row, s.executions.get? p.2.execution = some row ∧ row.status ≠ .cancelling)
      (failProcessTx now p errorCode failureDisposition acceptedOutcome)
      fun _ s => ∀ i plan context, s.identityOf p.2.execution = some i → i.Pins d plan →
        (context.operationMode = none ∨ p.2.status = .running) → (during l).Holds (some ⟨p.2.execution, i,
          .route plan p.2.stepKey .failed (some p) context true⟩) s
  awaitRetry : ∀ p e row outcome due,
    Triple (fun s => (s.Shaped none ∧ (during []).Holds none s) ∧ s.Accepting p e row ∧ s.MayRetry p)
      (awaitRetryTx p outcome due) fun _ => (during []).Holds none
  awaitRetryDue : ∀ p e due,
    Triple (fun s => (s.Shaped none ∧ (during []).Holds none s) ∧ ∃ process, s.processes.get? p = some process ∧
        process.status = .retryWait ∧ process.execution = e) (awaitRetryDueTx e p due) fun _ => (during []).Holds none
  -- retries and recovery
  promoteRetry : ∀ now p, Triple (fun s => s.Shaped none ∧ (during []).Holds none s) (promoteRetryTx now p)
    fun _ => (during []).Holds none
  cancelExpired : ∀ now l p,
    Triple (fun s => s.Shaped none ∧ (during (.lease p :: l)).Holds none s) (cancelExpiredTx now p)
      fun _ => (during l).Holds none
  replayExpired : ∀ now l p, p.2.recoveryCount < p.2.maxRecoveries →
    Triple (fun s => s.Shaped none ∧ (during (.lease p :: l)).Holds none s) (replayExpiredTx now p)
      fun _ => (during l).Holds none
  stopHalted : ∀ {s e row}, s.Shaped none → (during []).Holds none s → s.Halted e → s.executions.get? e = some row →
    row.root = e → (during []).Stop e s
  -- gates and wakes
  decideGate : ∀ now request, Triple (fun s => s.Shaped none ∧ (during []).Holds none s) (decideGateTx d now request)
    fun _ => (during []).Holds none
  resume : ∀ decision record g gate row,
    Triple (fun s => (s.Shaped none ∧ (during []).Holds none s) ∧ Consume decision s ∧
        s.decisions.get? decision = some record ∧ record.gate = g ∧ s.gates.get? g = some gate ∧
        record.target = gate.target ∧ gate.status = record.action.gateStatus ∧
        s.executions.get? gate.execution = some row ∧ row.status.isTerminal = false ∧ row.status ≠ .cancelling)
      (resumeFromGateTx gate.execution g row)
      fun current s => (during []).Holds none s ∧ ∀ plan control selector error context decision,
        assertExecutionBinding d current = .ok plan → controlStep plan gate.gateKind = .ok control →
        gateSelector record.action = .ok (selector, error) →
        context = { typedRouteContext d s gate.execution current with gateAction := some record.action } →
        routeDecision plan gate.execution current control.stepKey selector context = .ok decision →
        s.Settled plan gate.execution decision ∨ (during []).Holds (some ⟨gate.execution, row.identity,
          .route plan control.stepKey selector none context false⟩) s
  wake : ∀ {s e row plan start decision}, s.Shaped none → (during []).Holds none s → Wake e s →
    s.executions.get? e = some row → row.status.isTerminal = false → row.status ≠ .cancelling →
    row.status ≠ .waiting → assertExecutionBinding d row = .ok plan → plan.startStep? = some start →
    routeDecision plan e row start.stepKey .always (typedRouteContext d s e row) = .ok decision →
    s.Settled plan e decision ∨ (during []).Holds (some ⟨e, row.identity,
      .route plan start.stepKey .always none (typedRouteContext d s e row) false⟩) s
  -- repair
  stalled : ∀ {s l e row p process plan}, s.Shaped none → (during (.stalled e row p :: l)).Holds none s →
    s.processes.get? p = some process → assertExecutionBinding d row = .ok plan → (during l).Holds (some ⟨e, row.identity,
      .route plan process.stepKey process.status.selector (some (p, process)) {} true⟩) s
  breakWait : ∀ {s l e row}, s.Shaped none → (during (.wait e row :: l)).Holds none s → s.WaitInvalid e row →
    (during l).Holds (some ⟨e, row.identity, .broken⟩) s
  closeDead : ∀ now e row errorCode error,
    Triple (fun s => (s.Shaped none ∧ (during []).Holds none s) ∧ Dead e s ∧ s.executions.get? e = some row ∧
        row.status.isTerminal = false) (closeDeadTx now e row errorCode error) fun _ => (during []).Holds none
  clearCurrent : ∀ e row,
    Triple (fun s => (s.Shaped none ∧ (during []).Holds none s) ∧ s.Ended e row)
      (casExecution e (·.currentProcess.isSome) fun r =>
        { r with currentProcess := none, rowRevision := r.rowRevision + 1 }) fun _ => (during []).Holds none
  projectTerminal : ∀ now e row,
    Triple (fun s => (s.Shaped none ∧ (during []).Holds none s) ∧ s.Ended e row)
      (projectTaskStatusTx now row.task (row.terminalProjection e)) fun _ => (during []).Holds none
  markCleanup : ∀ now p, Triple (fun s => s.Shaped none ∧ (during []).Holds none s) (markCleanupEligibleTx now p)
    fun _ => (during []).Holds none
  -- commands
  createTask : ∀ now request, Triple (fun s => s.Shaped none ∧ (during []).Holds none s) (createTaskTx d now request)
    fun _ => (during []).Holds none
  patchTask : ∀ t expectedRevision priority,
    Triple (fun s => s.Shaped none ∧ (during []).Holds none s) (patchTaskTx d t expectedRevision priority)
      fun _ => (during []).Holds none
  cancelTask : ∀ now t expectedRevision,
    Triple (fun s => s.Shaped none ∧ (during []).Holds none s) (cancelTaskTx now t expectedRevision)
      fun _ => (during []).Holds none
  retryTask : ∀ now t expectedRevision reason,
    Triple (fun s => s.Shaped none ∧ (during []).Holds none s) (retryTaskTx d now t expectedRevision reason)
      fun _ => (during []).Holds none
  softDelete : ∀ t expectedRevision,
    Triple (fun s => s.Shaped none ∧ (during []).Holds none s) (softDeleteTaskTx t expectedRevision)
      fun _ => (during []).Holds none
  restart : ∀ p fence, Triple (fun s => (s.Shaped none ∧ (during []).Holds none s) ∧ Restart p s) (fenceRestartTx p fence)
    fun _ => (during []).Holds none

end KnowledgeBase
