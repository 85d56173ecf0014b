import Mathlib.Data.List.Basic

/-!
# Workflow definitions

The static contract of a workflow revision: its steps, routes, guards and bindings. A guard compares one typed
fact with one registered value, so the values it may expect are those of the fact's own type.
-/

namespace KnowledgeBase

/-! ### the registered values -/

inductive WorkflowStepKind
  | start | process | control | join | terminal
  deriving DecidableEq

inductive WorkflowRequiredness
  | required | optional
  deriving DecidableEq

inductive WorkflowTerminalKind
  | success | failure | cancelled | noop
  deriving DecidableEq

inductive WorkflowRouteKind
  | normal | branch | fanOut | join | terminal
  deriving DecidableEq

inductive WorkflowOutcomeSelector
  | always | succeeded | failed | cancelled | skipped
  deriving DecidableEq

inductive WorkflowJoinMode
  | none | allRequired | allTerminal
  deriving DecidableEq

inductive WorkflowBindingSourceKind
  | executionContext | intakeSnapshot | priorOutput | controlValue | registryRef
  deriving DecidableEq

inductive WorkflowValueType
  | logicalRef | digest | proof
  deriving DecidableEq

inductive WorkflowMultiplicity
  | one | many
  deriving DecidableEq

inductive RequestIntent
  | intakeIngest | intakeRebuild | intakeUpdateMetadata | intakeDeactivate | intakeReactivate | intakeDelete
  | indexRebuild
  deriving DecidableEq

inductive AdmissionResult
  | autoAdmitted | humanReviewRequired | rejected
  deriving DecidableEq

inductive MetadataDisposition
  | noChange | changed
  deriving DecidableEq

inductive MainTextPresence
  | present | absent | unknown
  deriving DecidableEq

inductive AcquisitionMode
  | static | browser | pdf
  deriving DecidableEq

inductive MediaFamily
  | text | pdf | image | opaqueMedia
  deriving DecidableEq

/-- The registered clean strategies, the registered-provider mapping, and any other string a request declares. -/
inductive CleanStrategy
  | webDeterministic | webLlmRewrite | webBrowserPrintPdf | pdfTextLayer | pdfDocumentUnderstanding | pdfOcr
  | docDeterministic | docDocumentUnderstanding | docOcr | docVision | registeredApiMap
  | unregistered (name : String)
  deriving DecidableEq

/-- The strategies a guard may expect. -/
def CleanStrategy.isRegistered : CleanStrategy → Bool
  | .registeredApiMap => false
  | .unregistered _ => false
  | _ => true

/-! ### the declaration -/

structure WorkflowPortDefinition where
  slotName : String
  valueType : WorkflowValueType := .logicalRef
  schemaRef : String := "mkb.value"
  required : Bool := true
  multiplicity : WorkflowMultiplicity := .one
  deriving DecidableEq

structure WorkflowStepDefinition where
  stepKey : String
  stepKind : WorkflowStepKind
  requiredness : WorkflowRequiredness := .required
  processKey : Option String := none
  contractVersion : Option String := none
  hasPhase : Bool := true
  requiredProofKind : Option String := none
  controlKey : Option String := none
  controlVersion : Option String := none
  controlFallbackPort : Option String := none
  inputPorts : List WorkflowPortDefinition := []
  outputPorts : List WorkflowPortDefinition := []
  terminalKind : Option WorkflowTerminalKind := none
  deriving DecidableEq

structure WorkflowRouteDefinition where
  routeKey : String
  fromStepKey : String
  toStepKey : String
  routeKind : WorkflowRouteKind
  outcomeSelector : WorkflowOutcomeSelector
  priority : Nat
  guardKey : Option String := none
  joinMode : WorkflowJoinMode := .none
  deriving DecidableEq

/-- The registered predicates with the value each expects; the only operator is equality. -/
inductive WorkflowGuardPredicate
  | registeredAdmissionResult (expected : AdmissionResult)
  | registeredRequestIntent (expected : RequestIntent)
  | registeredMetadataDisposition
  | registeredMarkdownSelection
  | registeredAdmissionMarkdownSelection
  | representationMainTextPresence (expected : MainTextPresence)
  | registeredAcquisitionMode (expected : AcquisitionMode)
  | representationMediaFamily (expected : MediaFamily)
  | registeredCleanStrategy (expected : CleanStrategy)
  deriving DecidableEq

structure WorkflowGuardDefinition where
  guardKey : String
  predicate : WorkflowGuardPredicate
  deriving DecidableEq

structure WorkflowBindingDefinition where
  targetStepKey : String
  targetSlotName : String
  sourceKind : WorkflowBindingSourceKind
  sourceRefKey : Option String := none
  sourceStepKey : Option String := none
  sourcePortName : Option String := none
  deriving DecidableEq

structure WorkflowDefinition where
  workflowKey : String
  contextSlots : List WorkflowPortDefinition := []
  requiredProcessKeys : List String
  steps : List WorkflowStepDefinition
  routes : List WorkflowRouteDefinition
  bindings : List WorkflowBindingDefinition := []
  guards : List WorkflowGuardDefinition := []
  deriving DecidableEq

namespace WorkflowDefinition

def step? (plan : WorkflowDefinition) (key : String) : Option WorkflowStepDefinition :=
  plan.steps.find? fun step => step.stepKey == key

def guard? (plan : WorkflowDefinition) (key : String) : Option WorkflowGuardDefinition :=
  plan.guards.find? fun guard => guard.guardKey == key

/-- The first step of kind `start`. -/
def startStep? (plan : WorkflowDefinition) : Option WorkflowStepDefinition :=
  plan.steps.find? fun step => step.stepKind == .start

def HasFanOut (plan : WorkflowDefinition) : Prop := ∃ route ∈ plan.routes, route.routeKind = .fanOut

/-- The route graph has an edge from one step to another. -/
def Edge (plan : WorkflowDefinition) (a b : String) : Prop :=
  ∃ route ∈ plan.routes, route.fromStepKey = a ∧ route.toStepKey = b

instance (plan : WorkflowDefinition) : Decidable plan.HasFanOut := by
  unfold HasFanOut; infer_instance

theorem step?_eq_some {plan : WorkflowDefinition} {key : String} {step : WorkflowStepDefinition}
    (h : plan.step? key = some step) : step ∈ plan.steps ∧ step.stepKey = key := by
  unfold step? at h
  exact ⟨List.mem_of_find?_eq_some h, by simpa using List.find?_some h⟩

end WorkflowDefinition

end KnowledgeBase
