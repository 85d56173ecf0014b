import KnowledgeBase.Workflow.Definition

/-!
# Validation of workflow definitions

The model validators of the contract, in the order they run. A definition the engine holds has passed all of
them, which the subtype `ValidWorkflow` records; the facts the engine relies on are read off the validators: step
keys are unique, there is one start step, and the search from the start step meets no step it is still visiting.
-/

namespace KnowledgeBase

/-- Raises the message if the condition holds. -/
def refuseIf (c : Bool) (message : String) : Except String Unit := if c then .error message else .ok ()

/-! ### shapes -/

def WorkflowStepDefinition.noProcessFields (step : WorkflowStepDefinition) : Bool :=
  step.processKey.isNone && step.contractVersion.isNone && step.requiredProofKind.isNone

def WorkflowStepDefinition.noControlFields (step : WorkflowStepDefinition) : Bool :=
  step.controlKey.isNone && step.controlVersion.isNone && step.controlFallbackPort.isNone

def WorkflowStepDefinition.validateShape (step : WorkflowStepDefinition) : Except String Unit := do
  let inputNames := step.inputPorts.map (·.slotName)
  let outputNames := step.outputPorts.map (·.slotName)
  refuseIf (!decide inputNames.Nodup) "input port names must be unique within a step"
  refuseIf (!decide outputNames.Nodup) "output port names must be unique within a step"
  match step.stepKind with
  | .process => do
    refuseIf (step.processKey.isNone || step.contractVersion.isNone)
      "process steps require process_key and contract_version"
    refuseIf (!step.hasPhase) "process steps require a registered phase_key"
    refuseIf step.requiredProofKind.isNone "process steps require a proof kind"
    refuseIf (!step.noControlFields || step.terminalKind.isSome)
      "process steps cannot define control_key or terminal_kind"
    refuseIf step.outputPorts.isEmpty "process steps require at least one output port"
  | .control => do
    refuseIf step.controlKey.isNone "control steps require a registered control_key"
    refuseIf (!step.hasPhase) "control steps require a registered phase_key"
    refuseIf (!step.noProcessFields || step.terminalKind.isSome)
      "control steps cannot declare a process capability, proof, or terminal kind"
    if step.controlKey == some "selected_output" then do
      refuseIf step.controlVersion.isNone "selected_output controls require a semantics version"
      refuseIf (step.inputPorts.isEmpty || step.inputPorts.any (·.required))
        "selected_output candidate ports must be optional"
      refuseIf (step.outputPorts.length != 1 || !step.outputPorts.all (·.required))
        "selected_output controls require one canonical output"
      refuseIf (step.controlFallbackPort.any fun port => !inputNames.contains port)
        "selected_output fallback must name a candidate input port"
    else
      refuseIf (step.controlVersion.isSome || step.controlFallbackPort.isSome)
        "only selected_output controls may declare selection semantics"
  | .terminal => do
    refuseIf (step.requiredness != .required) "terminal steps must be required"
    refuseIf step.terminalKind.isNone "terminal steps require terminal_kind"
    refuseIf (!step.inputPorts.isEmpty || !step.outputPorts.isEmpty || step.hasPhase)
      "terminal steps cannot declare ports or a phase"
    refuseIf (!step.noProcessFields || !step.noControlFields)
      "terminal steps cannot declare process or control fields"
  | .start => do
    refuseIf (step.requiredness != .required) "the start step must be required"
    refuseIf (!step.inputPorts.isEmpty || !step.outputPorts.isEmpty || step.hasPhase)
      "start steps cannot declare ports or a phase"
    refuseIf (!step.noProcessFields || !step.noControlFields || step.terminalKind.isSome)
      "start steps cannot declare process, control, or terminal fields"
  | .join => do
    refuseIf (!step.noProcessFields || !step.noControlFields || step.terminalKind.isSome)
      "join steps cannot declare process, control, proof, or terminal fields"
    refuseIf step.hasPhase "join steps cannot declare a phase"

def WorkflowRouteDefinition.validateShape (route : WorkflowRouteDefinition) : Except String Unit := do
  refuseIf (route.routeKind == .join && route.joinMode == .none) "join routes require a non-none join_mode"
  refuseIf (route.routeKind != .join && route.joinMode != .none) "only join routes may declare a join_mode"

/-- The values each predicate may expect are those of its type, the clean strategies the registered ones. -/
def WorkflowGuardDefinition.validateRegisteredValue (guard : WorkflowGuardDefinition) : Except String Unit :=
  match guard.predicate with
  | .registeredCleanStrategy expected =>
    refuseIf (!expected.isRegistered) "guard expected_value is not registered for its predicate"
  | _ => .ok ()

def WorkflowBindingDefinition.validateSourceShape (binding : WorkflowBindingDefinition) : Except String Unit :=
  if binding.sourceKind == .priorOutput then do
    refuseIf (binding.sourceStepKey.isNone || binding.sourcePortName.isNone)
      "prior_output bindings require source_step_key and source_port_name"
    refuseIf binding.sourceRefKey.isSome "prior_output bindings cannot declare source_ref_key"
  else do
    refuseIf binding.sourceRefKey.isNone "non-prior-output bindings require source_ref_key"
    refuseIf (binding.sourceStepKey.isSome || binding.sourcePortName.isSome)
      "non-prior-output bindings cannot declare a source step or port"

namespace WorkflowDefinition

/-! ### keys -/

def uniqueSteps (plan : WorkflowDefinition) : Except String Unit := do
  refuseIf (!decide (plan.steps.map (·.stepKey)).Nodup) "step_key values must be unique"
  refuseIf ((plan.steps.filter fun step => step.stepKind == .start).length != 1)
    "a workflow definition must contain exactly one start step"
  refuseIf (!plan.steps.any fun step => step.stepKind == .terminal)
    "a workflow definition must contain at least one terminal step"

def uniqueContextSlots (plan : WorkflowDefinition) : Except String Unit :=
  refuseIf (!decide (plan.contextSlots.map (·.slotName)).Nodup) "context slot names must be unique"

def uniqueGuards (plan : WorkflowDefinition) : Except String Unit :=
  refuseIf (!decide (plan.guards.map (·.guardKey)).Nodup) "guard_key values must be unique"

def validateRequiredProcessKeys (plan : WorkflowDefinition) : Except String Unit := do
  refuseIf (!decide plan.requiredProcessKeys.Nodup) "required_process_keys must not contain duplicates"
  let declared := (plan.steps.filter fun step => step.stepKind == .process && step.requiredness == .required).map
    (·.processKey)
  refuseIf (declared.any (·.isNone)) "required process steps must declare process_key"
  refuseIf (!declared.all (fun key => key.any plan.requiredProcessKeys.contains) ||
      !plan.requiredProcessKeys.all fun key => declared.contains (some key))
    "required_process_keys must exactly match required process steps"

/-! ### routes -/

def kindOf? (plan : WorkflowDefinition) (key : String) : Option WorkflowStepKind :=
  (plan.step? key).map (·.stepKind)

def adjacency (plan : WorkflowDefinition) (key : String) : List String :=
  (plan.routes.filter fun route => route.fromStepKey == key).map (·.toStepKey)

/-- The checks of one route against the routes before it. -/
def validateRoute (plan : WorkflowDefinition) (startKey : String) (before : List WorkflowRouteDefinition)
    (route : WorkflowRouteDefinition) : Except String Unit := do
  refuseIf ((plan.step? route.fromStepKey).isNone || (plan.step? route.toStepKey).isNone)
    "routes must reference steps from the same workflow definition"
  refuseIf (route.fromStepKey == route.toStepKey) "workflow routes cannot be self-edges"
  refuseIf (plan.kindOf? route.fromStepKey == some .terminal) "terminal steps cannot have outgoing routes"
  refuseIf (before.any fun other => other.fromStepKey == route.fromStepKey &&
      other.outcomeSelector == route.outcomeSelector && other.priority == route.priority)
    "route priority must be deterministic for each step and outcome selector"
  refuseIf ((route.routeKind == .terminal) != (plan.kindOf? route.toStepKey == some .terminal))
    "terminal routes must target a terminal step, and only terminal routes may do so"
  refuseIf (route.outcomeSelector == .always && route.guardKey.isSome && route.fromStepKey != startKey)
    "only a start route may guard an always selector"
  refuseIf (route.guardKey.any fun key => (plan.guard? key).isNone)
    "route guard_key must reference a registered guard"

def validateRoutesFrom (plan : WorkflowDefinition) (startKey : String) (before : List WorkflowRouteDefinition) :
    List WorkflowRouteDefinition → Except String Unit
  | [] => .ok ()
  | route :: routes => do
    plan.validateRoute startKey before route
    plan.validateRoutesFrom startKey (before ++ [route]) routes

def validateRoutes (plan : WorkflowDefinition) (startKey : String) : Except String Unit := do
  refuseIf (!decide (plan.routes.map (·.routeKey)).Nodup) "route_key values must be unique"
  plan.validateRoutesFrom startKey [] plan.routes
  refuseIf (!plan.guards.all fun guard => plan.routes.any fun route => route.guardKey == some guard.guardKey)
    "every registered guard must be referenced by a route"

/-! ### the graph -/

/-- The steps the search has entered but not left, and the steps it has left, the last one first. -/
structure VisitState where
  visiting : List String
  visited : List String

/-- The depth-first search of `_validate_graph`; the fuel bounds the length of a path. -/
def visit (adj : String → List String) : Nat → VisitState → String → Except String VisitState
  | 0, _, _ => .error "workflow route graph must be acyclic"
  | fuel + 1, state, key =>
    if key ∈ state.visiting then .error "workflow route graph must be acyclic"
    else if key ∈ state.visited then .ok state
    else do
      let inner ← (adj key).foldlM (visit adj fuel) { state with visiting := key :: state.visiting }
      .ok { visiting := state.visiting, visited := key :: inner.visited }

/-- The keys reached backwards from the pending ones. -/
def collect (sources : String → List String) : Nat → List String → List String → List String
  | 0, _, seen => seen
  | _, [], seen => seen
  | fuel + 1, key :: pending, seen =>
    let found := ((sources key).filter fun source => !seen.contains source).dedup
    collect sources fuel (found ++ pending) (seen ++ found)

def reverseAdjacency (plan : WorkflowDefinition) (key : String) : List String :=
  (plan.routes.filter fun route => route.toStepKey == key).map (·.fromStepKey)

def coversOutcomes (plan : WorkflowDefinition) (key : String) : Bool :=
  [WorkflowOutcomeSelector.succeeded, .failed, .cancelled].all fun selector =>
    plan.routes.any fun route => route.fromStepKey == key && route.outcomeSelector == selector

def validateGraph (plan : WorkflowDefinition) (startKey : String) : Except String Unit := do
  refuseIf (!plan.routes.any fun route => route.fromStepKey == startKey)
    "the start step must have an outgoing route"
  let state ← visit plan.adjacency (plan.steps.length + 1) ⟨[], []⟩ startKey
  refuseIf (!plan.steps.all fun step => state.visited.contains step.stepKey)
    "workflow steps must be reachable from start"
  let terminals := (plan.steps.filter fun step => step.stepKind == .terminal).map (·.stepKey)
  let reaching := collect plan.reverseAdjacency (plan.steps.length + 1) terminals terminals
  refuseIf (!plan.steps.all fun step => reaching.contains step.stepKey) "every workflow step must reach a terminal"
  refuseIf (!plan.steps.all fun step =>
      (step.stepKind != .process && step.stepKind != .control) || plan.coversOutcomes step.stepKey)
    "a step lacks terminal coverage"

/-! ### bindings -/

def inputPort? (plan : WorkflowDefinition) (key slot : String) : Option WorkflowPortDefinition :=
  (plan.step? key).bind fun step => step.inputPorts.find? fun port => port.slotName == slot

def outputPort? (plan : WorkflowDefinition) (key slot : String) : Option WorkflowPortDefinition :=
  (plan.step? key).bind fun step => step.outputPorts.find? fun port => port.slotName == slot

def canReach (plan : WorkflowDefinition) (source target : String) : Bool :=
  source != target &&
    (collect plan.adjacency (plan.steps.length + 1) [source] [source]).contains target

def validateCompatiblePorts (source target : WorkflowPortDefinition) : Except String Unit :=
  refuseIf (source.valueType != target.valueType || source.schemaRef != target.schemaRef ||
      source.multiplicity != target.multiplicity)
    "binding source and target ports must have identical type, schema_ref, and multiplicity"

def validateBinding (plan : WorkflowDefinition) (before : List WorkflowBindingDefinition)
    (binding : WorkflowBindingDefinition) : Except String Unit := do
  let kind := plan.kindOf? binding.targetStepKey
  refuseIf (kind != some .process && kind != some .control)
    "bindings may target only process or control input ports"
  match plan.inputPort? binding.targetStepKey binding.targetSlotName with
  | none => .error "binding target_slot_name must name a declared input port"
  | some targetPort => do
    refuseIf (before.any fun other => other.targetStepKey == binding.targetStepKey &&
        other.targetSlotName == binding.targetSlotName)
      "each workflow input port may have only one binding"
    match binding.sourceKind with
    | .priorOutput =>
      match binding.sourceStepKey, binding.sourcePortName with
      | some sourceStep, some sourcePortName =>
        match plan.outputPort? sourceStep sourcePortName with
        | none => .error "prior_output bindings must reference a declared output port"
        | some sourcePort => do
          refuseIf (!plan.canReach sourceStep binding.targetStepKey)
            "prior_output bindings must come from an upstream step"
          validateCompatiblePorts sourcePort targetPort
      | _, _ => .error "prior_output bindings must reference a declared output port"
    | .executionContext =>
      match plan.contextSlots.find? fun slot => some slot.slotName == binding.sourceRefKey with
      | none => .error "execution_context bindings must reference a declared context slot"
      | some sourcePort => validateCompatiblePorts sourcePort targetPort
    | _ =>
      match plan.contextSlots.find? fun slot => some slot.slotName == binding.sourceRefKey with
      | none => .ok ()
      | some sourcePort => validateCompatiblePorts sourcePort targetPort

def validateBindingsFrom (plan : WorkflowDefinition) (before : List WorkflowBindingDefinition) :
    List WorkflowBindingDefinition → Except String Unit
  | [] => .ok ()
  | binding :: bindings => do
    plan.validateBinding before binding
    plan.validateBindingsFrom (before ++ [binding]) bindings

def validateBindings (plan : WorkflowDefinition) : Except String Unit := do
  plan.validateBindingsFrom [] plan.bindings
  refuseIf (!plan.steps.all fun step => step.inputPorts.all fun port =>
      !port.required || plan.bindings.any fun binding =>
        binding.targetStepKey == step.stepKey && binding.targetSlotName == port.slotName)
    "required input port is unbound"

/-! ### the whole definition -/

def validateShapes (plan : WorkflowDefinition) : Except String Unit := do
  plan.steps.forM (·.validateShape)
  plan.routes.forM (·.validateShape)
  plan.guards.forM (·.validateRegisteredValue)
  plan.bindings.forM (·.validateSourceShape)

def validateDefinition (plan : WorkflowDefinition) : Except String Unit := do
  plan.validateShapes
  plan.uniqueSteps
  plan.uniqueContextSlots
  plan.uniqueGuards
  plan.validateRequiredProcessKeys
  match plan.startStep? with
  | none => .error "a workflow definition must contain exactly one start step"
  | some start => do
    plan.validateRoutes start.stepKey
    plan.validateGraph start.stepKey
    plan.validateBindings

end WorkflowDefinition

/-- A definition the contract accepts. -/
abbrev ValidWorkflow := { plan : WorkflowDefinition // plan.validateDefinition = .ok () }

end KnowledgeBase
