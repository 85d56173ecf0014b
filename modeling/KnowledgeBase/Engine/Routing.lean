import KnowledgeBase.Store.Database

/-!
# Route decisions

The plan an Execution is pinned to, the typed facts its guards may read, and the deterministic choice of routes
from a step: candidates by priority, the first match unless it fans out. All of it is a function of the deployment
and of the durable state; a decision's payload stands for its digest.
-/

namespace KnowledgeBase

/-! ### process keys -/

def hasPrefix (pre s : String) : Bool := pre.toList.isPrefixOf s.toList

def hasInfix (part s : String) : Bool := s.toList.tails.any fun rest => part.toList.isPrefixOf rest

/-- `GENERATE_PROCESS_KEYS`. -/
def generateProcessKeys : List String :=
  ["lsrag.transcribe_markdown", "lsrag.structurize", "lsrag.construct", "clean.extract.web_llm",
    "clean.extract.doc_llm", "clean.extract.pdf_llm"]

/-- `OVER_BUDGET_PROCESS_KEYS`. -/
def overBudgetProcessKeys : List String :=
  ["lsrag.structurize", "lsrag.construct", "lsrag.transcribe_markdown", "clean.extract.web_llm",
    "clean.extract.doc_llm", "clean.extract.pdf_llm"]

/-- `requires_actual_binding`. -/
def requiresActualBinding (processKey : String) : Bool :=
  hasPrefix "clean." processKey || hasPrefix "lsrag." processKey ||
    ["intake.collection.seal", "intake.preflight_validate", "intake.accept_snapshot",
      "index.validate_publication"].contains processKey

/-- The intents whose Executions run without sealing an actual binding. -/
def RequestIntent.skipsActualBinding : RequestIntent → Bool
  | .intakeRebuild | .intakeUpdateMetadata | .indexRebuild => true
  | _ => false

/-- `CLEAN_STEP_STRATEGIES`. -/
def cleanStepStrategies : List (String × CleanStrategy) :=
  [("clean", .docDeterministic), ("clean_deterministic", .docDeterministic),
    ("clean_doc_llm", .docDocumentUnderstanding), ("clean_doc_ocr", .docOcr), ("clean_vision", .docVision),
    ("clean_pdf_text", .pdfTextLayer), ("clean_pdf_llm", .pdfDocumentUnderstanding), ("clean_pdf_ocr", .pdfOcr),
    ("clean_print_pdf", .webBrowserPrintPdf), ("clean_web_static", .webDeterministic),
    ("clean_web_browser", .webDeterministic), ("clean_web_reacquire", .webDeterministic),
    ("clean_web_llm_static", .webLlmRewrite), ("clean_web_llm_browser", .webLlmRewrite),
    ("clean_web_llm_reacquire", .webLlmRewrite)]

/-- `clean_strategy_for_step`. -/
def cleanStrategyForStep (stepKey processKey : String) : Except MkbError CleanStrategy :=
  match [("clean.extract.deterministic", CleanStrategy.docDeterministic), ("clean.extract.web", .webDeterministic),
      ("clean.extract.web_llm", .webLlmRewrite), ("clean.extract.pdf_text", .pdfTextLayer),
      ("clean.extract.doc_llm", .docDocumentUnderstanding), ("clean.extract.vision", .docVision),
      ("clean.map.registered_api", .registeredApiMap)].lookup processKey with
  | some strategy => .ok strategy
  | none =>
    if processKey == "clean.extract.pdf_llm" then
      .ok (if stepKey == "clean_print_pdf" then .webBrowserPrintPdf else .pdfDocumentUnderstanding)
    else if processKey == "clean.ocr.local" then .ok (if hasInfix "pdf" stepKey then .pdfOcr else .docOcr)
    else .error ⟨"CLEAN_STRATEGY_UNSUPPORTED", "Selected clean Process has no registered strategy", 409⟩

/-! ### the pinned plan -/

/-- `_assert_execution_binding`: the plan pinned by an Execution's compiled digest. -/
def assertExecutionBinding (d : Deployment) (row : ExecutionRow) : Except MkbError WorkflowDefinition :=
  match d.revisions.lookup row.workflowRevision with
  | none => .error ⟨"workflow-binding-missing", "Execution references a missing workflow revision", 503⟩
  | some revision =>
    if revision.compiledDigest != row.compiledDigest || !d.activeWorkflowKeys.contains revision.workflowKey then
      .error ⟨"workflow-binding-mismatch", "Execution binding does not match the loaded immutable workflow", 409⟩
    else match d.plans.lookup row.compiledDigest with
      | none => .error ⟨"workflow-compiled-plan-unavailable",
          "No reviewed runtime plan is available for the execution's immutable workflow revision", 503⟩
      | some plan =>
        if plan.1.workflowKey != revision.workflowKey then
          .error ⟨"workflow-binding-mismatch",
            "Execution digest resolved to a different immutable workflow key", 409⟩
        else if revision.stepKeys.all (fun key => (plan.1.step? key).isSome) &&
            plan.1.steps.all fun step => revision.stepKeys.contains step.stepKey then .ok plan.1
        else .error ⟨"workflow-step-registry-mismatch",
          "Workflow revision steps do not match the loaded declaration", 409⟩

/-- `_assert_process_declared`. -/
def assertProcessDeclared (plan : WorkflowDefinition) (p : ProcessRow) : Except MkbError Unit :=
  let declared := (plan.step? p.stepKey).any fun step => step.stepKind == .process &&
    step.processKey == some p.processKey && step.contractVersion == some p.contractVersion
  if declared then .ok ()
  else .error ⟨"workflow-process-undeclared",
    "Process capability is not declared by the immutable Workflow revision", 409⟩

/-! ### the typed facts -/

/-- The context a guard may read. -/
structure RouteContext where
  requestIntent : Option RequestIntent := none
  admissionResult : Option AdmissionResult := none
  metadataDisposition : Option MetadataDisposition := none
  markdownSelection : Bool := false
  admissionMarkdownSelection : Bool := false
  mainTextPresence : Option MainTextPresence := none
  acquisitionMode : Option AcquisitionMode := none
  mediaFamily : Option MediaFamily := none
  selectedCleanStrategy : Option CleanStrategy := none
  operationMode : Option OperationMode := none
  gateAction : Option GateAction := none
  deriving DecidableEq

def DeclaredMediaType.family : DeclaredMediaType → MediaFamily
  | .applicationPdf => .pdf
  | .image => .image
  | .text => .text
  | .applicationJson => .text
  | .other => .opaqueMedia

/-- `_typed_route_context_tx`. -/
def typedRouteContext (d : Deployment) (db : Database) (e : ExecutionId) (row : ExecutionRow) : RouteContext :=
  let task := db.tasks.get? row.task
  let admission := (db.facts.candidateSet? e).bind (·.admissionResult)
  let audit := (task.map (·.audit)).getD {}
  let facts := if d.readsRepresentationFacts then db.facts.latestRepresentation e else none
  { requestIntent := task.map (·.requestIntent)
    admissionResult := admission
    metadataDisposition := if db.facts.noChangeTransitions.contains e then some .noChange
      else row.metadataDisposition
    markdownSelection := audit.markdownPrompt
    admissionMarkdownSelection := audit.markdownPrompt && admission == some .autoAdmitted
    mainTextPresence := facts.map (·.mainTextPresence)
    acquisitionMode := audit.acquisitionMode
    mediaFamily := (facts.map (·.mediaFamily)).or (audit.mediaType.map (·.family))
    selectedCleanStrategy := audit.cleanStrategy.or (facts.bind IntakeFacts.deriveSelectedCleanStrategy) }

/-! ### guards and decisions -/

def WorkflowGuardPredicate.holds (context : RouteContext) : WorkflowGuardPredicate → Bool
  | registeredAdmissionResult expected => context.admissionResult == some expected
  | registeredRequestIntent expected => context.requestIntent == some expected
  | registeredMetadataDisposition => context.metadataDisposition == some .noChange
  | registeredMarkdownSelection => context.markdownSelection
  | registeredAdmissionMarkdownSelection => context.admissionMarkdownSelection
  | representationMainTextPresence expected => context.mainTextPresence == some expected
  | registeredAcquisitionMode expected => context.acquisitionMode == some expected
  | representationMediaFamily expected => context.mediaFamily == some expected
  | registeredCleanStrategy expected => context.selectedCleanStrategy == some expected

/-- The dictionary update of `guard_results`. -/
def recordGuard (key : String) (matched : Bool) (results : List (String × Bool)) : List (String × Bool) :=
  if results.any fun r => r.1 == key then results.map fun r => if r.1 == key then (key, matched) else r
  else results ++ [(key, matched)]

/-- `_guard_matches`. -/
def guardMatches (plan : WorkflowDefinition) (context : RouteContext) (route : WorkflowRouteDefinition)
    (results : List (String × Bool)) : Except MkbError (Bool × List (String × Bool)) :=
  match route.guardKey with
  | none => .ok (true, results)
  | some key =>
    match plan.guard? key with
    | none => .error ⟨"workflow-guard-missing", "Workflow route references an unavailable guard", 409⟩
    | some guard =>
      let matched := guard.predicate.holds context
      .ok (matched, recordGuard key matched results)

/-- The selected routes among the candidates, in order, with the guard results recorded on the way. -/
def selectRoutes (plan : WorkflowDefinition) (context : RouteContext) :
    List WorkflowRouteDefinition → List (String × Bool) →
      Except MkbError (List WorkflowRouteDefinition × List (String × Bool))
  | [], results => .ok ([], results)
  | route :: routes, results => do
    let (matched, results) ← guardMatches plan context route results
    if !matched then selectRoutes plan context routes results
    else if route.routeKind != .fanOut then .ok ([route], results)
    else do
      let (selected, results) ← selectRoutes plan context routes results
      .ok (route :: selected, results)

structure RouteDecision where
  routes : List WorkflowRouteDefinition
  payload : RouteDecisionPayload

/-- The routes out of a step under a selector, by priority. -/
def routeCandidates (plan : WorkflowDefinition) (sourceStepKey : String) (selector : WorkflowOutcomeSelector) :
    List WorkflowRouteDefinition :=
  List.insertionSort (fun a b => a.priority ≤ b.priority)
    (plan.routes.filter fun route => route.fromStepKey == sourceStepKey && route.outcomeSelector == selector)

def isReacquireGuard (guard : WorkflowGuardDefinition) : Bool :=
  guard.predicate == .representationMainTextPresence .absent

/-- An absent text representation at the static decode step of a kind workflow needs a reacquisition edge. -/
def lacksReacquireEdge (plan : WorkflowDefinition) (sourceStepKey : String) (selector : WorkflowOutcomeSelector)
    (context : RouteContext) : Bool :=
  selector == .succeeded && hasPrefix "intake.ingest.kind." plan.workflowKey &&
    context.mediaFamily == some .text && context.mainTextPresence == some .absent &&
    sourceStepKey == "decode_web_static" && plan.guards.any isReacquireGuard &&
    !(routeCandidates plan sourceStepKey selector).any fun route =>
      (route.guardKey.bind plan.guard?).any isReacquireGuard

/-- `_route_decision`. -/
def routeDecision (plan : WorkflowDefinition) (e : ExecutionId) (row : ExecutionRow) (sourceStepKey : String)
    (selector : WorkflowOutcomeSelector) (context : RouteContext) : Except MkbError RouteDecision := do
  if lacksReacquireEdge plan sourceStepKey selector context then
    .error (conflictError "workflow-reacquire-edge-undeclared"
      "An absent text representation has no declared forward reacquisition edge")
  else
    let (selected, results) ← selectRoutes plan context (routeCandidates plan sourceStepKey selector) []
    let bound := selected.head?.bind fun route => cleanStepStrategies.lookup route.toStepKey
    if context.selectedCleanStrategy.any fun declared => bound.any (· != declared) then
      .error (conflictError "workflow-claimed-strategy-unreachable"
        "Declared clean strategy is not reachable from the observed representation")
    else
      .ok {
        routes := selected
        payload := {
          workflowKey := plan.workflowKey
          workflowRevision := row.workflowRevision
          execution := e
          sourceStepKey := sourceStepKey
          outcomeSelector := selector
          guardResults := results
          routes := selected.map (·.routeKey) } }

end KnowledgeBase
