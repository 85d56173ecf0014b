import KnowledgeBase.Engine.Projection

/-!
# Terminal transitions

The paths that close an Execution: cancellation of a tree and its convergence, an integrity failure, a terminal
route, and the collect-all join of a scatter root. Closing an Execution notifies its parent, which may close in
turn. The operations are written over the notification they issue, and `notifyScatterParentTerminalTx` ties the
knot: every nested notification follows the closing of one more Execution, so as many levels as there are open
Executions are enough.
-/

namespace KnowledgeBase

abbrev ProcessRecord := ProcessId × ProcessRow

/-! ### queries -/

namespace Database

/-- An open Execution below a root. -/
def hasOpenDescendant (db : Database) (root : ExecutionId) : Bool :=
  db.executions.any fun e row => row.root == root && e != root && !row.status.isTerminal

def openExecutions (db : Database) : Nat := db.executions.count fun _ row => !row.status.isTerminal

/-- The last row of a list under a key, the later one on equal keys. -/
def latestBy (key : ProcessRow → Time) : List ProcessRecord → Option ProcessRecord
  | [] => none
  | r :: rest =>
    match latestBy key rest with
    | none => some r
    | some q => if key q.2 < key r.2 then some r else some q

/-- `_last_terminal_process_tx`. -/
def lastTerminalProcess (db : Database) (e : ExecutionId) : Option ProcessRecord :=
  latestBy (·.completedAt.getD 0) (db.processes.select fun _ p => p.execution == e && p.status.isTerminal)

def isAcceptSnapshot (p : ProcessRow) : Bool :=
  p.status == .succeeded && p.stepKey == "accept_snapshot" && p.processKey == "intake.accept_snapshot"

/-- `_scatter_root_terminal_proof_tx`. -/
def scatterRootTerminalProof (db : Database) (root : ExecutionId) (source : Option ProcessId) :
    Option ProcessRecord :=
  let proved (p : ProcessRow) := p.execution == root && isAcceptSnapshot p && p.proof.isSome && p.outputManifest.isSome
  match source.bind fun id => ((db.processes.get? id).filter proved).map (Prod.mk id) with
  | some r => some r
  | none => latestBy (·.completedAt.getD 0) (db.processes.select fun _ p => proved p)

/-- The open Executions a tree cancellation visits, children first. -/
def cancellationTree (db : Database) (root : ExecutionId) (includeRoot : Bool) : List ExecutionId :=
  let rows := db.executions.select fun e row => row.root == root && (includeRoot || e != root) &&
    !row.status.isTerminal
  (rows.filter (·.2.parent.isSome) ++ rows.filter (·.2.parent.isNone)).map (·.1)

/-- The writes of a tree cancellation on the gates, Processes and candidate sets of one Execution: idle Processes
pass through `cancelling` to `cancelled`, leased ones stay `cancelling` under a new fence. -/
def fenceExecution (now : Time) (e : ExecutionId) (db : Database) : Database :=
  let gates := db.gates.update (fun _ g => g.execution == e && g.status == .opened)
    fun _ g => { g with status := .superseded, gateRevision := g.gateRevision + 1 }
  let db := { db with gates := gates }
  let db := db.updateProcessesOf e (fun p => p.status == .ready || p.status == .retryWait)
    fun p => { p with
      status := .cancelling
      fencingGeneration := p.fencingGeneration + 1
      rowRevision := p.rowRevision + 1 }
  let db := db.updateProcessesOf e (fun p => p.status == .cancelling && p.leaseOwner.isNone && p.claimToken.isNone)
    fun p => { p with
      status := .cancelled
      completedAt := some now
      claimToken := none
      leaseOwner := none
      leaseExpiresAt := none
      heartbeatAt := none
      rowRevision := p.rowRevision + 1 }
  let db := db.updateProcessesOf e (fun p => p.status == .claimed || p.status == .running)
    fun p => { p with
      status := .cancelling
      fencingGeneration := p.fencingGeneration + 1
      rowRevision := p.rowRevision + 1 }
  let candidateSets := db.facts.candidateSets.map fun c =>
    if c.producerExecution == e && (c.stagingState == .opened || c.stagingState == .sealed) then
      { c with stagingState := .abandoned, rowRevision := c.rowRevision + 1 }
    else c
  { db with facts := { db.facts with candidateSets := candidateSets } }

end Database

/-- `_project_root_task_tx`. -/
def projectRootTaskTx (now : Time) (e : ExecutionId) (row : ExecutionRow) (status : TaskStatus)
    (source : Option ProcessRecord) (errorCode errorMessage : Option String)
    (disposition : Option ResultDisposition) : Tx Unit := do
  if row.root != e then pure ()
  else do
    let _ ← projectTaskStatusTx now row.task {
      target := status
      currentRoot := some e
      resultRef := source.bind (·.2.outputManifest)
      proofRef := if disposition.isSome then none else source.bind (·.2.proof)
      resultDisposition := disposition
      errorCode := errorCode
      errorMessage := errorMessage }

section notified

variable (now : Time) (notify : Option ExecutionId → Tx Unit)

/-! ### cancellation -/

/-- The convergence of a `cancelling` Execution whose work has ended, with the Task projection of a root. -/
def closeCancelledTx (e : ExecutionId) (current : ExecutionRow) : Tx Bool := do
  let updated ← casExecution e (·.status == .cancelling) fun row =>
    { row with
      status := .cancelled
      waitingReason := none
      waitingRef := none
      nextWakeAt := none
      cancelConvergedAt := some now
      completedAt := some now
      currentProcess := none
      terminalSummary := some .cancelled
      summaryCompletedAt := some now
      rowRevision := row.rowRevision + 1 }
  if updated then do
    if current.root == e then refreshExecutionCountsTx e
    projectRootTaskTx now e current .cancelled none none none none
  pure updated

/-- `_converge_cancellation_tx`. -/
def convergeCancellationWith (e : ExecutionId) : Tx Bool := do
  let current ← execution e
  let db ← get
  if current.status != .cancelling then pure false
  else if db.hasActiveProcess e then pure false
  else if current.root == e && db.hasOpenDescendant e then pure false
  else do
    let updated ← closeCancelledTx now e current
    if updated then do
      notify current.parent
      pure true
    else pure false

/-- One Execution of a tree cancellation: tells whether it newly became `cancelling`. -/
def requestCancelling (e : ExecutionId) : Tx Nat := do
  let updated ← casExecution e (fun row => !row.status.isTerminal && row.status != .cancelling) fun row =>
    { row with
      status := .cancelling
      cancelRequestedAt := row.cancelRequestedAt.or (some now)
      rowRevision := row.rowRevision + 1 }
  modify (Database.fenceExecution now e)
  pure (if updated then 1 else 0)

/-- `_cancel_execution_tree_tx`. -/
def cancelExecutionTreeWith (root : ExecutionId) (includeRoot : Bool) : Tx Nat := do
  let row ← execution root
  raiseIf (row.root != root)
    (conflictError "cancel-tree-root-invalid" "Cancellation tree root is not a root Execution")
  let tree := (← get).cancellationTree root includeRoot
  let changed ← sumEach tree (requestCancelling now)
  forEach tree fun e => do
    let _ ← convergeCancellationWith now notify e
  pure changed

/-- The tree cancellation of the children of a scatter root that closes in failure. -/
def cancelScatterChildrenWith (e : ExecutionId) (current : ExecutionRow) : Tx Unit := do
  if current.root == e && current.role == .scatterRoot then do
    let _ ← cancelExecutionTreeWith now notify e false

/-! ### integrity failures -/

/-- The write of an integrity failure, with the Task projection of a root. -/
def closeIntegrityTx (e : ExecutionId) (current : ExecutionRow) (errorCode message : String) : Tx Bool := do
  let updated ← casExecution e (!·.status.isTerminal) fun row =>
    { row with
      status := .failed
      finalErrorCode := some errorCode
      finalErrorMessage := some message
      terminalSummary := some (.integrity errorCode)
      summaryCompletedAt := some now
      completedAt := some now
      currentProcess := none
      rowRevision := row.rowRevision + 1 }
  if updated then projectRootTaskTx now e current .failed none (some errorCode) (some message) none
  pure updated

/-- `_fail_execution_integrity_tx`. -/
def failExecutionIntegrityWith (e : ExecutionId) (errorCode message : String) : Tx Unit := do
  let current ← execution e
  cancelScatterChildrenWith now notify e current
  if ← closeIntegrityTx now e current errorCode message then notify current.parent

/-! ### terminal routes -/

/-- The status a terminal kind stands for. -/
def WorkflowTerminalKind.status : WorkflowTerminalKind → ExecutionStatus
  | .success => .succeeded
  | .failure => .failed
  | .cancelled => .cancelled
  | .noop => .succeeded

def WorkflowTerminalKind.taskStatus : WorkflowTerminalKind → TaskStatus
  | .success => .succeeded
  | .failure => .failed
  | .cancelled => .cancelled
  | .noop => .succeeded

/-- What a terminal route closes an Execution with. -/
structure TerminalRoute where
  kind : WorkflowTerminalKind
  source : Option ProcessRecord
  routeDigest : RouteDigest
  errorCode : Option String
  disposition : Option ResultDisposition

namespace TerminalRoute

def finalError (r : TerminalRoute) : Option String :=
  r.errorCode.or (if r.kind.status == .succeeded then none else some "workflow-terminal-failure")

def finalMessage (r : TerminalRoute) : Option String :=
  r.finalError.map fun _ => "Workflow reached a terminal failure route"

/-- The integrity failure that stands in the way of the route, if there is one. -/
def refusal? (r : TerminalRoute) : Option (String × String) :=
  if r.kind.status == .succeeded && r.source.isNone then
    some ("workflow-success-proof-missing", "Workflow success lacks a source Process completion proof")
  else if r.kind.status == .succeeded && r.disposition.isNone && (r.source.bind (·.2.proof)).isNone then
    some ("workflow-success-proof-missing", "Workflow success lacks a publication proof")
  else if r.disposition.isSome && r.kind == .noop then
    some ("TASK_DISPOSITION_UNSUPPORTED", "NOOP cannot materialize exhausted_zero")
  else none

end TerminalRoute

/-- The write of a terminal route, with the Task projection of a root. -/
def closeRouteTx (e : ExecutionId) (current : ExecutionRow) (r : TerminalRoute) : Tx Bool := do
  let counts := (← execution e).processCounters
  let updated ← casExecution e (!·.status.isTerminal) fun row =>
    { row with
      status := r.kind.status
      waitingReason := none
      waitingRef := none
      nextWakeAt := none
      currentProcess := none
      resultRef := r.source.bind (·.2.outputManifest)
      publicationProofRef := if r.disposition.isSome then none else r.source.bind (·.2.proof)
      finalErrorCode := r.finalError
      finalErrorMessage := r.finalMessage
      terminalSummary := some (.route r.routeDigest r.kind.status counts (r.source.map (·.1)) r.errorCode)
      summaryCompletedAt := some now
      completedAt := some now
      rowRevision := row.rowRevision + 1 }
  if updated then
    projectRootTaskTx now e current r.kind.taskStatus r.source r.finalError r.finalMessage r.disposition
  pure updated

/-- The end of a terminal route: the integrity failure that stands in its way, or its closing write. -/
def finishRouteWith (e : ExecutionId) (current : ExecutionRow) (r : TerminalRoute) : Tx Unit :=
  match r.refusal? with
  | some (code, message) => failExecutionIntegrityWith now notify e code message
  | none => do
    refreshExecutionCountsTx e
    if ← closeRouteTx now e current r then notify current.parent

/-- `_terminalize_execution_tx`. -/
def terminalizeExecutionWith (e : ExecutionId) (terminalKind : Option WorkflowTerminalKind)
    (source : Option ProcessRecord) (routeDigest : RouteDigest) (errorCode : Option String)
    (disposition : Option ResultDisposition) : Tx Unit := do
  let kind ← orRaise terminalKind
    ⟨"workflow-terminal-invalid", "Terminal workflow step is missing its terminal kind", 500⟩
  let current ← execution e
  if current.status.isTerminal then pure ()
  else do
    if kind.status == .failed || kind.status == .cancelled then cancelScatterChildrenWith now notify e current
    finishRouteWith now notify e current ⟨kind, source, routeDigest, errorCode, disposition⟩

/-! ### the collect-all join of a scatter root -/

/-- A child correctly bound to a required member of the accepted set. -/
def isBoundChild (snapshot : SnapshotId) (changeSet : ChangeSetId) (member : IntakeFacts.ExpectedMember)
    (child : ExecutionRow) : Bool :=
  child.role == .scatterChild && child.requiredness == .required && child.targetKind == .intakeItem &&
    child.intakeSnapshot == some snapshot && child.scatterChangeSet == some changeSet &&
    child.scatterMemberOrdinal == some member.memberOrdinal &&
    child.scatterIntakeRevision == some member.revision

/-- The one bound child of each member, in the order of the members; `none` stands for a missing, duplicated or
misbound one. -/
def boundChild? (snapshot : SnapshotId) (changeSet : ChangeSetId) (children : List (ExecutionId × ExecutionRow))
    (member : IntakeFacts.ExpectedMember) : Option (ExecutionId × ExecutionRow) :=
  match children.filter fun c => c.2.target == some member.item with
  | [child] => if isBoundChild snapshot changeSet member child.2 then some child else none
  | _ => none

/-- The bound children of the accepted required set, if the children are exactly those. -/
def boundChildren? (snapshot : SnapshotId) (changeSet : ChangeSetId) (expected : List IntakeFacts.ExpectedMember)
    (children : List (ExecutionId × ExecutionRow)) : Option (List (ExecutionId × ExecutionRow)) :=
  let members := expectedByItem expected
  if children.all fun c => members.any fun m => c.2.target == some m.item then
    match members.mapM (boundChild? snapshot changeSet children) with
    | some bound => if bound.length == expected.length then some bound else none
    | none => none
  else none

/-- The terminal publication Process of a succeeded child, with the error that stands for its absence. -/
def publicationProcess (db : Database) (child : ExecutionId × ExecutionRow) (member : IntakeFacts.ExpectedMember) :
    Except (String × String) ProcessRecord :=
  let proofs := db.facts.publicationProofs.filter fun proof =>
    proof.item == member.item && proof.revision == member.revision && proof.execution == child.1
  match proofs.map (·.process) with
  | [some id] =>
    let found := (db.processes.get? id).filter fun p => p.execution == child.1 && p.status == .succeeded &&
      p.stepKey == "validate_publication" && p.processKey == "index.validate_publication" &&
      p.proof.isSome && p.outputManifest.isSome && child.2.publicationProofRef == p.proof
    match found with
    | some p => .ok (id, p)
    | none => .error ("scatter-publication-proof-invalid",
        "A succeeded required Scatter child has no matching terminal publication evidence")
  | _ => .error ("scatter-publication-proof-missing",
      "A succeeded required Scatter child lacks one exact publication proof")

/-- The children and the members, both sorted by Item. -/
def childrenWithMembers (bound : List (ExecutionId × ExecutionRow)) (expected : List IntakeFacts.ExpectedMember) :
    List ((ExecutionId × ExecutionRow) × IntakeFacts.ExpectedMember) :=
  (List.insertionSort (fun a b => a.2.target.getD 0 ≤ b.2.target.getD 0) bound).zip
    (List.insertionSort (fun a b => a.item ≤ b.item) expected)

/-- `_maybe_converge_scatter_root_tx`. -/
def maybeConvergeScatterRootWith (root : ExecutionId) : Tx Bool := do
  let current ← execution root
  let db ← get
  if current.role != .scatterRoot || current.status != .waiting ||
      current.waitingReason != some .scatterChildren then pure false
  else match db.acceptance? current.task root with
    | none => do
      failExecutionIntegrityWith now notify root "scatter-acceptance-binding-missing"
        "Scatter fan-in has no exact accepted Snapshot and ChangeSet binding"
      pure true
    | some (snapshot, changeSet) =>
      match db.facts.scatterExpectedMembers snapshot changeSet with
      | none => do
        failExecutionIntegrityWith now notify root "scatter-required-set-invalid"
          "Scatter ChangeSet does not match the accepted required membership set"
        pure true
      | some [] =>
        match db.scatterRootTerminalProof root none with
        | none => do
          failExecutionIntegrityWith now notify root "scatter-zero-proof-missing"
            "Zero-member Scatter Snapshot has no immutable acceptance proof"
          pure true
        | some proof => do
          terminalizeExecutionWith now notify root (some .success) (some proof)
            (.scatterZeroFanIn snapshot changeSet) none (some .exhaustedZero)
          pure true
      | some expected =>
        match boundChildren? snapshot changeSet expected (db.childrenOf current.task root) with
        | none => do
          failExecutionIntegrityWith now notify root "scatter-child-intent-invalid"
            "Scatter child intents do not exactly cover the accepted required set"
          pure true
        | some bound =>
          if bound.any fun c => !c.2.status.isTerminal then pure false
          else do
            let digest := RouteDigest.scatterFanIn snapshot changeSet
              ((List.insertionSort (fun a b => a.1 ≤ b.1) bound).map fun c => (c.1, c.2.status))
            let failed := bound.filter fun c => c.2.status == .failed
            let cancelled := bound.filter fun c => c.2.status == .cancelled
            match failed ++ cancelled with
            | child :: _ => do
              let error := if failed.isEmpty then "scatter-required-child-cancelled"
                else "scatter-required-child-failed"
              terminalizeExecutionWith now notify root (some .failure) (db.lastTerminalProcess child.1) digest
                (some error) none
              pure true
            | [] =>
              match (childrenWithMembers bound expected).mapM fun r => publicationProcess db r.1 r.2 with
              | .error (code, message) => do
                failExecutionIntegrityWith now notify root code message
                pure true
              | .ok proofs => do
                terminalizeExecutionWith now notify root (some .success)
                  (Database.latestBy (·.completedAt.getD 0)
                    (List.insertionSort (fun a b => a.1 ≤ b.1) proofs)) digest none none
                pure true

/-- `_notify_scatter_parent_terminal_tx`. -/
def notifyParentWith (parent : Option ExecutionId) : Tx Unit := do
  match parent with
  | none => pure ()
  | some r => do
    let row ← execution r
    if row.status == .cancelling then do
      let _ ← convergeCancellationWith now notify r
    else if row.role == .scatterRoot then do
      let _ ← maybeConvergeScatterRootWith now notify r

end notified

/-! ### the knot -/

/-- Notifications nested at most `depth` deep. -/
def notifyDepth (now : Time) : Nat → Option ExecutionId → Tx Unit
  | 0 => notifyParentWith now fun _ => pure ()
  | depth + 1 => notifyParentWith now (notifyDepth now depth)

/-- `_notify_scatter_parent_terminal_tx`. -/
def notifyScatterParentTerminalTx (now : Time) (parent : Option ExecutionId) : Tx Unit := do
  notifyDepth now (← get).openExecutions parent

section closed

variable (now : Time)

def convergeCancellationTx : ExecutionId → Tx Bool :=
  convergeCancellationWith now (notifyScatterParentTerminalTx now)

def cancelExecutionTreeTx : ExecutionId → Bool → Tx Nat :=
  cancelExecutionTreeWith now (notifyScatterParentTerminalTx now)

def failExecutionIntegrityTx : ExecutionId → String → String → Tx Unit :=
  failExecutionIntegrityWith now (notifyScatterParentTerminalTx now)

def terminalizeExecutionTx : ExecutionId → Option WorkflowTerminalKind → Option ProcessRecord → RouteDigest →
    Option String → Option ResultDisposition → Tx Unit :=
  terminalizeExecutionWith now (notifyScatterParentTerminalTx now)

def maybeConvergeScatterRootTx : ExecutionId → Tx Bool :=
  maybeConvergeScatterRootWith now (notifyScatterParentTerminalTx now)

end closed

end KnowledgeBase
