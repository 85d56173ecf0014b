import KnowledgeBase.Engine.Routing

/-!
# The kind workflows

The graphs of the three source kinds, each with its own acquisition, decoding and cleaning in front of one shared tail.
What the validation alone reads of a port (its type and its schema) is left out.
-/

namespace KnowledgeBase

/-! ### records -/

def portOf (slotName : String) (required : Bool) : WorkflowPortDefinition := { slotName, required }

/-- `_process`. -/
def processStep (stepKey processKey proof : String) (inputs outputs : List WorkflowPortDefinition) :
    WorkflowStepDefinition :=
  { stepKey, stepKind := .process, processKey := some processKey, contractVersion := some "v1",
    requiredProofKind := some proof, inputPorts := inputs, outputPorts := outputs }

/-- `_acquire`. -/
def acquireStep (stepKey processKey : String) : WorkflowStepDefinition :=
  processStep stepKey processKey "acquisition_evidence" [portOf "input" true] [portOf "acquisition_evidence" true]

/-- `_decode`. -/
def decodeStep (stepKey processKey : String) : WorkflowStepDefinition :=
  processStep stepKey processKey "decode_evidence" [portOf "input" true] [portOf "decoded_representation" true]

/-- `_clean`. -/
def cleanStep (stepKey processKey : String) : WorkflowStepDefinition :=
  processStep stepKey processKey "clean_candidate_evidence" [portOf "input" true] [portOf "clean_candidate" true]

def startStep : WorkflowStepDefinition := { stepKey := "start", stepKind := .start, hasPhase := false }

def terminalStep (stepKey : String) (kind : WorkflowTerminalKind) : WorkflowStepDefinition :=
  { stepKey, stepKind := .terminal, hasPhase := false, terminalKind := some kind }

/-- `_route`. -/
def routeOf (routeKey fromStepKey toStepKey : String) (priority : Nat) (guardKey : Option String) :
    WorkflowRouteDefinition :=
  { routeKey, fromStepKey, toStepKey, routeKind := .normal, outcomeSelector := .succeeded, priority, guardKey }

/-- A route out of the start step. -/
def startRoute (routeKey toStepKey : String) (priority : Nat) (guardKey : Option String) : WorkflowRouteDefinition :=
  { routeOf routeKey "start" toStepKey priority guardKey with outcomeSelector := .always }

/-- A route to a terminal step. -/
def endRoute (routeKey fromStepKey toStepKey : String) (priority : Nat) (guardKey : Option String) :
    WorkflowRouteDefinition :=
  { routeOf routeKey fromStepKey toStepKey priority guardKey with routeKind := .terminal }

/-- `_terminal_routes`. -/
def terminalRoutes (stepKeys : List String) : List WorkflowRouteDefinition :=
  stepKeys.flatMap fun stepKey =>
    [{ endRoute (stepKey ++ ".failed") stepKey "failed" 0 none with outcomeSelector := .failed },
      { endRoute (stepKey ++ ".cancelled") stepKey "cancelled" 0 none with outcomeSelector := .cancelled }]

/-- `_bind`. -/
def bindOf (target slot source port : String) : WorkflowBindingDefinition :=
  { targetStepKey := target, targetSlotName := slot, sourceKind := .priorOutput, sourceStepKey := some source,
    sourcePortName := some port }

/-- `_bind_context`. -/
def bindContext (target slot refKey : String) : WorkflowBindingDefinition :=
  { targetStepKey := target, targetSlotName := slot, sourceKind := .executionContext, sourceRefKey := some refKey }

/-! ### the shared tail -/

def tailSteps : List WorkflowStepDefinition :=
  [processStep "seal_candidate_set" "intake.collection.seal" "candidate_set_seal_proof"
      [portOf "clean_candidate" true] [portOf "candidate_set_seal" true],
    processStep "preflight_validate" "intake.preflight_validate" "preflight_outcome_evidence"
      [portOf "candidate_set_seal" true, portOf "clean_candidate" true] [portOf "preflight_outcome" true],
    processStep "accept_snapshot" "intake.accept_snapshot" "acceptance_proof"
      [portOf "candidate_set_seal" true, portOf "preflight_outcome" true] [portOf "accepted_intake_revision" true],
    { stepKey := "human_review", stepKind := .control, controlKey := some "human_review_gate",
      inputPorts := [portOf "accepted_intake_revision" true, portOf "preflight_outcome" true],
      outputPorts := [portOf "gate_decision" true] },
    processStep "transcribe_markdown" "lsrag.transcribe_markdown" "markdown_transcription_proof"
      [portOf "accepted_intake_revision" true] [portOf "markdown_artifact" true],
    processStep "structurize" "lsrag.structurize" "structure_proof"
      [portOf "accepted_intake_revision" true, portOf "markdown_artifact" false] [portOf "structure_artifact" true],
    processStep "construct" "lsrag.construct" "construct_to_vectorize_gate"
      [portOf "structure_artifact" false, portOf "accepted_intake_revision" false] [portOf "construct_package" true],
    processStep "vectorize" "lsrag.vectorize" "vectorization_proof" [portOf "construct_package" true]
      [portOf "vectorization_receipt" true],
    processStep "validate_publication" "index.validate_publication" "publication_proof"
      [portOf "accepted_intake_revision" true, portOf "vectorization_receipt" true] [portOf "publication_proof" true],
    terminalStep "succeeded" .success, terminalStep "failed" .failure, terminalStep "cancelled" .cancelled]

def branchRoute (routeKey fromStepKey toStepKey : String) (priority : Nat) (guardKey : String) :
    WorkflowRouteDefinition :=
  { routeOf routeKey fromStepKey toStepKey priority (some guardKey) with routeKind := .branch }

def tailRoutes : List WorkflowRouteDefinition :=
  [routeOf "seal_candidate_set.to_preflight_validate" "seal_candidate_set" "preflight_validate" 0 none,
    routeOf "preflight_validate.to_accept_snapshot" "preflight_validate" "accept_snapshot" 0 none,
    branchRoute "accept_snapshot.rebuild_publication" "accept_snapshot" "construct" 0 "request_intent_rebuild",
    branchRoute "accept_snapshot.metadata_refresh" "accept_snapshot" "construct" 1 "request_intent_metadata_refresh",
    branchRoute "accept_snapshot.auto_admitted_markdown" "accept_snapshot" "transcribe_markdown" 10
      "admission_auto_markdown",
    branchRoute "accept_snapshot.auto_admitted" "accept_snapshot" "structurize" 11 "admission_auto_admitted",
    branchRoute "accept_snapshot.human_review" "accept_snapshot" "human_review" 20 "admission_human_review_required",
    endRoute "accept_snapshot.rejected" "accept_snapshot" "failed" 30 (some "admission_rejected"),
    routeOf "human_review.to_transcribe_markdown" "human_review" "transcribe_markdown" 0
      (some "prompt_markdown_present"),
    routeOf "human_review.to_structurize" "human_review" "structurize" 1 none,
    routeOf "transcribe_markdown.to_structurize" "transcribe_markdown" "structurize" 0 none,
    routeOf "structurize.to_construct" "structurize" "construct" 0 none,
    routeOf "construct.to_vectorize" "construct" "vectorize" 0 none,
    routeOf "vectorize.to_validate_publication" "vectorize" "validate_publication" 0 none,
    endRoute "validate_publication.to_succeeded" "validate_publication" "succeeded" 0 none] ++
  terminalRoutes ["seal_candidate_set", "preflight_validate", "accept_snapshot", "human_review", "transcribe_markdown",
    "structurize", "construct", "vectorize", "validate_publication"]

/-- The bindings of the tail among its own steps. -/
def tailBindings : List WorkflowBindingDefinition :=
  [bindOf "preflight_validate" "candidate_set_seal" "seal_candidate_set" "candidate_set_seal",
    bindOf "accept_snapshot" "candidate_set_seal" "seal_candidate_set" "candidate_set_seal",
    bindOf "accept_snapshot" "preflight_outcome" "preflight_validate" "preflight_outcome",
    bindOf "human_review" "accepted_intake_revision" "accept_snapshot" "accepted_intake_revision",
    bindOf "human_review" "preflight_outcome" "preflight_validate" "preflight_outcome",
    bindOf "transcribe_markdown" "accepted_intake_revision" "accept_snapshot" "accepted_intake_revision",
    bindOf "structurize" "accepted_intake_revision" "accept_snapshot" "accepted_intake_revision",
    bindOf "structurize" "markdown_artifact" "transcribe_markdown" "markdown_artifact",
    bindOf "construct" "structure_artifact" "structurize" "structure_artifact",
    bindOf "construct" "accepted_intake_revision" "accept_snapshot" "accepted_intake_revision",
    bindOf "vectorize" "construct_package" "construct" "construct_package",
    bindOf "validate_publication" "accepted_intake_revision" "accept_snapshot" "accepted_intake_revision",
    bindOf "validate_publication" "vectorization_receipt" "vectorize" "vectorization_receipt"]

/-- The guards that the routes of the tail refer to. -/
def tailGuards : List WorkflowGuardDefinition :=
  [⟨"request_intent_rebuild", .registeredRequestIntent .intakeRebuild⟩,
    ⟨"request_intent_metadata_refresh", .registeredRequestIntent .intakeUpdateMetadata⟩,
    ⟨"admission_auto_admitted", .registeredAdmissionResult .autoAdmitted⟩,
    ⟨"admission_auto_markdown", .registeredAdmissionMarkdownSelection⟩,
    ⟨"prompt_markdown_present", .registeredMarkdownSelection⟩,
    ⟨"admission_human_review_required", .registeredAdmissionResult .humanReviewRequired⟩,
    ⟨"admission_rejected", .registeredAdmissionResult .rejected⟩]

/-! ### composition -/

/-- What a kind has in front of the tail. -/
structure KindPrefix where
  workflowKey : String
  steps : List WorkflowStepDefinition
  routes : List WorkflowRouteDefinition
  bindings : List WorkflowBindingDefinition
  guards : List WorkflowGuardDefinition
  contextSlots : List WorkflowPortDefinition := [portOf "source_descriptor" true]

/-- The steps whose outputs the selected clean candidate is taken from. -/
def KindPrefix.cleanSteps (kind : KindPrefix) : List WorkflowStepDefinition :=
  kind.steps.filter fun step => step.processKey.any fun processKey =>
    hasPrefix "clean." processKey || processKey == "intake.replay_frozen_clean"

/-- `_selected_control`. -/
def selectedControl (cleanSteps : List WorkflowStepDefinition) : WorkflowStepDefinition :=
  { stepKey := "selected_clean", stepKind := .control, controlKey := some "selected_output",
    controlVersion := some "selected-output.v1",
    inputPorts := cleanSteps.map fun step => portOf step.stepKey false
    outputPorts := [portOf "clean_candidate" true] }

/-- The guards by their keys, as a dictionary has them. -/
def uniqueGuards (guards : List WorkflowGuardDefinition) : List WorkflowGuardDefinition :=
  guards.foldl (fun unique guard =>
    if unique.any fun g => g.guardKey == guard.guardKey then
      unique.map fun g => if g.guardKey == guard.guardKey then guard else g
    else unique ++ [guard]) []

/-- `_compose`. -/
def KindPrefix.compose (kind : KindPrefix) : WorkflowDefinition :=
  { workflowKey := kind.workflowKey
    contextSlots := kind.contextSlots
    requiredProcessKeys := ((kind.steps ++ tailSteps).filterMap (·.processKey)).reverse.dedup.reverse
    steps := startStep :: kind.steps ++ selectedControl kind.cleanSteps :: tailSteps
    routes := kind.routes ++ routeOf "selected_clean.to_seal" "selected_clean" "seal_candidate_set" 0 none ::
      terminalRoutes ["selected_clean"] ++ tailRoutes
    bindings := kind.bindings ++
      (kind.cleanSteps.map fun step => bindOf "selected_clean" step.stepKey step.stepKey "clean_candidate") ++
      [bindOf "seal_candidate_set" "clean_candidate" "selected_clean" "clean_candidate",
        bindOf "preflight_validate" "clean_candidate" "selected_clean" "clean_candidate"] ++ tailBindings
    guards := uniqueGuards (kind.guards ++ tailGuards) }

/-- The routes from the clean steps to the control that selects one output. -/
def selectedRoutes (cleans : List WorkflowStepDefinition) : List WorkflowRouteDefinition :=
  cleans.map fun step => routeOf (step.stepKey ++ ".selected") step.stepKey "selected_clean" 0 none

def stepKeysOf (steps : List WorkflowStepDefinition) : List String := steps.map (·.stepKey)

/-! ### the kinds -/

/-- `_inline_kind`. -/
def inlineKind : KindPrefix where
  workflowKey := "intake.ingest.kind.inline-payload.lsrag.v1"
  steps :=
    [processStep "index_rebuild" "index.rebuild" "index_rebuild_proof" [portOf "index_rebuild_scope" true]
        [portOf "index_rebuild_receipt" true],
      acquireStep "acquire_inline" "intake.acquire.inline",
      decodeStep "decode_text" "intake.decode.text_json_html",
      cleanStep "clean_deterministic" "clean.extract.deterministic",
      processStep "replay_frozen_clean" "intake.replay_frozen_clean" "rebuild_clean_replay_proof" [portOf "input" true]
        [portOf "clean_candidate" true],
      processStep "metadata_no_change" "intake.metadata_no_change" "metadata_no_change_proof" [portOf "input" true]
        [portOf "metadata_admission" true]]
  routes :=
    [startRoute "start.index_rebuild" "index_rebuild" 0 (some "request_intent_index_rebuild"),
      startRoute "start.rebuild" "replay_frozen_clean" 1 (some "request_intent_rebuild"),
      startRoute "start.metadata_no_change" "metadata_no_change" 2 (some "metadata_no_change"),
      startRoute "start.metadata_refresh" "replay_frozen_clean" 3 (some "request_intent_metadata_refresh"),
      startRoute "start.acquire" "acquire_inline" 10 none,
      endRoute "acquire.deactivate" "acquire_inline" "succeeded" 0 (some "request_intent_deactivate"),
      endRoute "acquire.reactivate" "acquire_inline" "succeeded" 1 (some "request_intent_reactivate"),
      endRoute "acquire.delete" "acquire_inline" "succeeded" 2 (some "request_intent_delete"),
      routeOf "acquire.decode" "acquire_inline" "decode_text" 10 none,
      routeOf "decode.clean" "decode_text" "clean_deterministic" 0 none,
      routeOf "clean.selected" "clean_deterministic" "selected_clean" 0 none,
      routeOf "replay.selected" "replay_frozen_clean" "selected_clean" 0 none,
      endRoute "metadata_no_change.succeeded" "metadata_no_change" "succeeded" 0 none,
      endRoute "index.succeeded" "index_rebuild" "succeeded" 0 none] ++
    terminalRoutes ["index_rebuild", "acquire_inline", "decode_text", "clean_deterministic", "replay_frozen_clean",
      "metadata_no_change"]
  bindings :=
    [bindContext "index_rebuild" "index_rebuild_scope" "index_rebuild_scope",
      bindContext "acquire_inline" "input" "source_descriptor",
      bindContext "replay_frozen_clean" "input" "source_descriptor",
      bindContext "metadata_no_change" "input" "source_descriptor",
      bindOf "decode_text" "input" "acquire_inline" "acquisition_evidence",
      bindOf "clean_deterministic" "input" "decode_text" "decoded_representation"]
  guards :=
    [⟨"request_intent_index_rebuild", .registeredRequestIntent .indexRebuild⟩,
      ⟨"request_intent_rebuild", .registeredRequestIntent .intakeRebuild⟩,
      ⟨"request_intent_metadata_refresh", .registeredRequestIntent .intakeUpdateMetadata⟩,
      ⟨"request_intent_deactivate", .registeredRequestIntent .intakeDeactivate⟩,
      ⟨"request_intent_reactivate", .registeredRequestIntent .intakeReactivate⟩,
      ⟨"request_intent_delete", .registeredRequestIntent .intakeDelete⟩,
      ⟨"metadata_no_change", .registeredMetadataDisposition⟩]
  contextSlots := [portOf "source_descriptor" true, portOf "index_rebuild_scope" true]

def localDecodes : List WorkflowStepDefinition :=
  [decodeStep "decode_text" "intake.decode.text_json_html", decodeStep "decode_pdf" "intake.decode.pdf",
    decodeStep "decode_image" "intake.decode.text_json_html"]

def localCleans : List WorkflowStepDefinition :=
  [cleanStep "clean_deterministic" "clean.extract.deterministic", cleanStep "clean_doc_llm" "clean.extract.doc_llm",
    cleanStep "clean_doc_ocr" "clean.ocr.local", cleanStep "clean_vision" "clean.extract.vision",
    cleanStep "clean_pdf_text" "clean.extract.pdf_text", cleanStep "clean_pdf_llm" "clean.extract.pdf_llm",
    cleanStep "clean_pdf_ocr" "clean.ocr.local"]

/-- `_local_kind`. -/
def localKind : KindPrefix where
  workflowKey := "intake.ingest.kind.local-object.lsrag.v1"
  steps := acquireStep "acquire_local" "intake.acquire.local_object" :: localDecodes ++ localCleans
  routes :=
    [startRoute "start.acquire" "acquire_local" 0 none,
      routeOf "acquire.decode_pdf" "acquire_local" "decode_pdf" 0 (some "media_pdf"),
      routeOf "acquire.decode_image" "acquire_local" "decode_image" 1 (some "media_image"),
      routeOf "acquire.decode_text" "acquire_local" "decode_text" 10 none,
      routeOf "decode_text.doc_llm" "decode_text" "clean_doc_llm" 0 (some "strategy_doc_llm"),
      routeOf "decode_text.deterministic" "decode_text" "clean_deterministic" 10 none,
      routeOf "decode_image.vision" "decode_image" "clean_vision" 0 (some "strategy_doc_vision"),
      routeOf "decode_image.ocr" "decode_image" "clean_doc_ocr" 10 none,
      routeOf "decode_pdf.llm" "decode_pdf" "clean_pdf_llm" 0 (some "strategy_pdf_llm"),
      routeOf "decode_pdf.ocr" "decode_pdf" "clean_pdf_ocr" 1 (some "strategy_pdf_ocr"),
      routeOf "decode_pdf.text" "decode_pdf" "clean_pdf_text" 10 none] ++
    selectedRoutes localCleans ++
    terminalRoutes ("acquire_local" :: stepKeysOf localDecodes ++ stepKeysOf localCleans)
  bindings := bindContext "acquire_local" "input" "source_descriptor" ::
    (localDecodes.map fun step => bindOf step.stepKey "input" "acquire_local" "acquisition_evidence") ++
    [bindOf "clean_deterministic" "input" "decode_text" "decoded_representation",
      bindOf "clean_doc_llm" "input" "decode_text" "decoded_representation",
      bindOf "clean_doc_ocr" "input" "decode_image" "decoded_representation",
      bindOf "clean_vision" "input" "decode_image" "decoded_representation",
      bindOf "clean_pdf_text" "input" "decode_pdf" "decoded_representation",
      bindOf "clean_pdf_llm" "input" "decode_pdf" "decoded_representation",
      bindOf "clean_pdf_ocr" "input" "decode_pdf" "decoded_representation"]
  guards :=
    [⟨"media_pdf", .representationMediaFamily .pdf⟩,
      ⟨"media_image", .representationMediaFamily .image⟩,
      ⟨"strategy_doc_llm", .registeredCleanStrategy .docDocumentUnderstanding⟩,
      ⟨"strategy_doc_vision", .registeredCleanStrategy .docVision⟩,
      ⟨"strategy_pdf_llm", .registeredCleanStrategy .pdfDocumentUnderstanding⟩,
      ⟨"strategy_pdf_ocr", .registeredCleanStrategy .pdfOcr⟩]

def httpAcquires : List WorkflowStepDefinition :=
  [acquireStep "acquire_static" "intake.acquire.http_static",
    acquireStep "acquire_browser" "intake.acquire.http_browser",
    acquireStep "acquire_browser_reacquire" "intake.acquire.http_browser",
    acquireStep "acquire_print" "intake.acquire.http_browser"]

def httpDecodes : List WorkflowStepDefinition :=
  [decodeStep "decode_web_static" "intake.decode.text_json_html",
    decodeStep "decode_web_browser" "intake.decode.text_json_html",
    decodeStep "decode_web_reacquire" "intake.decode.text_json_html", decodeStep "decode_pdf" "intake.decode.pdf",
    decodeStep "decode_print" "intake.decode.pdf"]

def httpCleans : List WorkflowStepDefinition :=
  [cleanStep "clean_web_static" "clean.extract.web", cleanStep "clean_web_browser" "clean.extract.web",
    cleanStep "clean_web_llm_static" "clean.extract.web_llm", cleanStep "clean_web_llm_browser" "clean.extract.web_llm",
    cleanStep "clean_web_reacquire" "clean.extract.web", cleanStep "clean_web_llm_reacquire" "clean.extract.web_llm",
    cleanStep "clean_pdf_text" "clean.extract.pdf_text", cleanStep "clean_pdf_llm" "clean.extract.pdf_llm",
    cleanStep "clean_pdf_ocr" "clean.ocr.local", cleanStep "clean_print_pdf" "clean.extract.pdf_llm"]

/-- `_http_kind`. -/
def httpKind : KindPrefix where
  workflowKey := "intake.ingest.kind.http-resource.lsrag.v1"
  steps := httpAcquires ++ httpDecodes ++ httpCleans
  routes :=
    [startRoute "start.browser" "acquire_browser" 0 (some "mode_browser"),
      startRoute "start.static" "acquire_static" 10 none,
      routeOf "static.decode_pdf" "acquire_static" "decode_pdf" 0 (some "mode_pdf"),
      routeOf "static.decode_web" "acquire_static" "decode_web_static" 10 none,
      routeOf "browser.decode_web" "acquire_browser" "decode_web_browser" 0 none,
      routeOf "reacquire.decode_web" "acquire_browser_reacquire" "decode_web_reacquire" 0 none,
      routeOf "print.decode_pdf" "acquire_print" "decode_print" 0 none,
      routeOf "decode_static.reacquire_browser" "decode_web_static" "acquire_browser_reacquire" 0
        (some "main_text_absent"),
      routeOf "decode_static.print" "decode_web_static" "acquire_print" 1 (some "strategy_print_pdf"),
      routeOf "decode_static.web_llm" "decode_web_static" "clean_web_llm_static" 2 (some "strategy_web_llm"),
      routeOf "decode_static.web" "decode_web_static" "clean_web_static" 10 none,
      routeOf "decode_browser.print" "decode_web_browser" "acquire_print" 0 (some "strategy_print_pdf"),
      routeOf "decode_browser.web_llm" "decode_web_browser" "clean_web_llm_browser" 1 (some "strategy_web_llm"),
      routeOf "decode_browser.web" "decode_web_browser" "clean_web_browser" 10 none,
      routeOf "decode_reacquire.print" "decode_web_reacquire" "acquire_print" 0 (some "strategy_print_pdf"),
      routeOf "decode_reacquire.web_llm" "decode_web_reacquire" "clean_web_llm_reacquire" 1 (some "strategy_web_llm"),
      routeOf "decode_reacquire.web" "decode_web_reacquire" "clean_web_reacquire" 10 none,
      routeOf "decode_pdf.llm" "decode_pdf" "clean_pdf_llm" 0 (some "strategy_pdf_llm"),
      routeOf "decode_pdf.ocr" "decode_pdf" "clean_pdf_ocr" 1 (some "strategy_pdf_ocr"),
      routeOf "decode_pdf.text" "decode_pdf" "clean_pdf_text" 10 none,
      routeOf "decode_print.clean" "decode_print" "clean_print_pdf" 0 none] ++
    selectedRoutes httpCleans ++
    terminalRoutes (stepKeysOf httpAcquires ++ stepKeysOf httpDecodes ++ stepKeysOf httpCleans)
  bindings := (httpAcquires.map fun step => bindContext step.stepKey "input" "source_descriptor") ++
    [bindOf "decode_web_static" "input" "acquire_static" "acquisition_evidence",
      bindOf "decode_pdf" "input" "acquire_static" "acquisition_evidence",
      bindOf "decode_web_browser" "input" "acquire_browser" "acquisition_evidence",
      bindOf "decode_web_reacquire" "input" "acquire_browser_reacquire" "acquisition_evidence",
      bindOf "decode_print" "input" "acquire_print" "acquisition_evidence",
      bindOf "clean_web_static" "input" "decode_web_static" "decoded_representation",
      bindOf "clean_web_llm_static" "input" "decode_web_static" "decoded_representation",
      bindOf "clean_web_browser" "input" "decode_web_browser" "decoded_representation",
      bindOf "clean_web_llm_browser" "input" "decode_web_browser" "decoded_representation",
      bindOf "clean_web_reacquire" "input" "decode_web_reacquire" "decoded_representation",
      bindOf "clean_web_llm_reacquire" "input" "decode_web_reacquire" "decoded_representation",
      bindOf "clean_pdf_text" "input" "decode_pdf" "decoded_representation",
      bindOf "clean_pdf_llm" "input" "decode_pdf" "decoded_representation",
      bindOf "clean_pdf_ocr" "input" "decode_pdf" "decoded_representation",
      bindOf "clean_print_pdf" "input" "decode_print" "decoded_representation"]
  guards :=
    [⟨"mode_browser", .registeredAcquisitionMode .browser⟩,
      ⟨"mode_pdf", .registeredAcquisitionMode .pdf⟩,
      ⟨"main_text_absent", .representationMainTextPresence .absent⟩,
      ⟨"strategy_print_pdf", .registeredCleanStrategy .webBrowserPrintPdf⟩,
      ⟨"strategy_web_llm", .registeredCleanStrategy .webLlmRewrite⟩,
      ⟨"strategy_pdf_llm", .registeredCleanStrategy .pdfDocumentUnderstanding⟩,
      ⟨"strategy_pdf_ocr", .registeredCleanStrategy .pdfOcr⟩]

/-- `BUILTIN_KIND_WORKFLOWS`. -/
def kindWorkflows : List WorkflowDefinition := [inlineKind.compose, localKind.compose, httpKind.compose]

end KnowledgeBase
