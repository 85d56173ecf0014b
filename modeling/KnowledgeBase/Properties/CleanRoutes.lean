import KnowledgeBase.Library.Commits
import KnowledgeBase.Simulation.Selection
import KnowledgeBase.Workflow.Kinds

/-!
# Clean strategies of a route decision

The strategy of a clean worker is named by the step, by its Process and by the request. In the kind workflows a decision
that selects a clean worker selects one on which all three agree, whatever the facts of the representation are:
`routeDecision_honours`. A declared strategy that the selected route does not lead to is refused with the transaction.
-/

namespace KnowledgeBase

open Transaction

/-- The clean steps have one strategy by the step and by the Process. -/
def namesOneStrategy (step : WorkflowStepDefinition) : Bool :=
  match step.processKey with
  | none => true
  | some processKey => !hasPrefix "clean." processKey ||
      match cleanStepStrategies.lookup step.stepKey, cleanStrategyForStep step.stepKey processKey with
      | some bound, .ok strategy => bound == strategy
      | _, _ => false

/-- A workflow whose clean steps have one strategy each, and which selects one route at a time. -/
structure CleanBound (plan : WorkflowDefinition) : Prop where
  steps : ∀ step ∈ plan.steps, namesOneStrategy step = true
  single : ¬ plan.HasFanOut

theorem validateDefinition_kind {plan : WorkflowDefinition} (h : plan ∈ kindWorkflows) :
    plan.validateDefinition = .ok () := by
  have hall : (kindWorkflows.all fun plan => decide (plan.validateDefinition = .ok ())) = true := by decide +kernel
  simpa using List.all_eq_true.1 hall plan h

theorem cleanBound_of_kind {plan : WorkflowDefinition} (h : plan ∈ kindWorkflows) : CleanBound plan := by
  have hsteps : (kindWorkflows.all fun plan => plan.steps.all namesOneStrategy) = true := by decide +kernel
  have hroutes : (kindWorkflows.all fun plan => plan.routes.all fun route => route.routeKind != .fanOut) = true := by
    decide +kernel
  rw [List.all_eq_true] at hsteps hroutes
  refine ⟨List.all_eq_true.1 (hsteps plan h), ?_⟩
  rintro ⟨route, hroute, hfan⟩
  have hne := List.all_eq_true.1 (hroutes plan h) route hroute
  simp [hfan] at hne

section decisions

variable {d : Deployment} {plan : WorkflowDefinition} {e : ExecutionId} {row : ExecutionRow} {key : String}
  {selector : WorkflowOutcomeSelector} {context : RouteContext} {decision : RouteDecision}

theorem mem_cleanTargets {target : String × String} (h : target ∈ cleanTargets plan decision) :
    ∃ route ∈ decision.routes, ∃ step ∈ plan.steps, step.stepKey = route.toStepKey ∧ target.1 = step.stepKey ∧
      step.processKey = some target.2 ∧ hasPrefix "clean." target.2 = true := by
  obtain ⟨route, hroute, htarget⟩ := List.mem_filterMap.1 h
  obtain ⟨step, hstep, htarget⟩ := Option.bind_eq_some_iff.1 htarget
  obtain ⟨processKey, hprocess, htarget⟩ := Option.bind_eq_some_iff.1 htarget
  split at htarget
  next hclean =>
    obtain rfl := Option.some.inj htarget
    obtain ⟨hmem, hkey⟩ := WorkflowDefinition.step?_eq_some hstep
    exact ⟨route, hroute, step, hmem, hkey, rfl, hprocess, hclean⟩
  · cases htarget

theorem strategy_of_namesOne {step : WorkflowStepDefinition} {processKey : String} (h : namesOneStrategy step = true)
    (hprocess : step.processKey = some processKey) (hclean : hasPrefix "clean." processKey = true) :
    ∃ strategy, cleanStepStrategies.lookup step.stepKey = some strategy ∧
      cleanStrategyForStep step.stepKey processKey = .ok strategy := by
  unfold namesOneStrategy at h
  simp only [hprocess, hclean, Bool.not_true, Bool.false_or] at h
  split at h
  next bound strategy hbound hstrategy =>
    obtain rfl := eq_of_beq h
    exact ⟨bound, hbound, hstrategy⟩
  · cases h

theorem routeDecision_honours (hplan : CleanBound plan)
    (h : routeDecision plan e row key selector context = .ok decision) {target : String × String}
    (htarget : target ∈ cleanTargets plan decision) :
    ∃ strategy, cleanStepStrategies.lookup target.1 = some strategy ∧
      cleanStrategyForStep target.1 target.2 = .ok strategy ∧
      ∀ declared, context.selectedCleanStrategy = some declared → declared = strategy := by
  obtain ⟨route, hroute, step, hstep, hkey, hstepKey, hprocess, hclean⟩ := mem_cleanTargets htarget
  obtain ⟨strategy, hbound, hstrategy⟩ := strategy_of_namesOne (hplan.steps step hstep) hprocess hclean
  refine ⟨strategy, hstepKey ▸ hbound, hstepKey ▸ hstrategy, fun declared hdeclared => ?_⟩
  -- the only route is the one the declared strategy is compared with
  have hhead : decision.routes.head? = some route := by
    have hlength := length_routes_le hplan.single h
    cases hroutes : decision.routes with
    | nil => simp [hroutes] at hroute
    | cons first rest =>
      rw [hroutes] at hroute hlength
      rw [List.length_cons] at hlength
      obtain rfl : rest = [] := List.length_eq_zero_iff.1 (by omega)
      rw [List.mem_singleton.1 hroute]
      rfl
  obtain ⟨-, -, hcheck⟩ := routeDecision_eq_ok h
  rw [hdeclared, hhead] at hcheck
  simp only [Option.any_some, Option.bind_some, ← hkey, hbound] at hcheck
  simpa using (by simpa using hcheck : strategy = declared).symm

theorem declared_selectedCleanStrategy {db : Database} {task : TaskRow} {declared : CleanStrategy}
    (htask : db.tasks.get? row.task = some task) (hdeclared : task.audit.cleanStrategy = some declared) :
    (typedRouteContext d db e row).selectedCleanStrategy = some declared := by
  simp [typedRouteContext, htask, hdeclared]

/-- A Process that has ended is routed to a clean worker of the declared strategy, or the transaction is refused. -/
theorem routeAfterTerminalProcess_honours (now : Time) {process : ProcessRecord} {extra : OutcomeExtra}
    {terminalError : Option String} {db : Database} {task : TaskRow} {declared : CleanStrategy}
    (hplan : assertExecutionBinding d row = .ok plan) (hkind : plan ∈ kindWorkflows)
    (htask : db.tasks.get? row.task = some task) (hdeclared : task.audit.cleanStrategy = some declared) :
    (∃ error, (routeAfterTerminalProcessTx d now e row process selector extra terminalError).run db = .error error) ∨
      ∃ decision, routeDecision plan e row process.2.stepKey selector
          { typedRouteContext d db e row with operationMode := extra.operationMode, gateAction := extra.gateAction } =
            .ok decision ∧
        ∀ target ∈ cleanTargets plan decision, cleanStepStrategies.lookup target.1 = some declared ∧
          cleanStrategyForStep target.1 target.2 = .ok declared := by
  cases hdecision : routeDecision plan e row process.2.stepKey selector
      { typedRouteContext d db e row with operationMode := extra.operationMode, gateAction := extra.gateAction } with
  | error error =>
    left
    refine ⟨error, ?_⟩
    unfold routeAfterTerminalProcessTx
    rw [hplan, run_bind_of_ok (run_ofExcept_of_ok rfl), run_bind_of_ok rfl]
    exact run_bind_of_error (by rw [hdecision]; rfl)
  | ok decision =>
    refine .inr ⟨decision, rfl, fun target htarget => ?_⟩
    obtain ⟨strategy, hbound, hstrategy, hsame⟩ := routeDecision_honours (cleanBound_of_kind hkind) hdecision htarget
    obtain rfl := hsame declared (declared_selectedCleanStrategy htask hdeclared)
    exact ⟨hbound, hstrategy⟩

end decisions

/-- A stored picture whose request declares the optical reading. -/
def opticalTask : TaskRow :=
  { team := 0, requestIntent := .intakeIngest, audit := { cleanStrategy := some .docOcr }, currentRoot := 0 }

def opticalRow : ExecutionRow :=
  { team := 0, task := 0, generation := 1, root := 0, workflowRevision := 1, compiledDigest := 7 }

def opticalDatabase : Database := { Database.empty with tasks := Table.empty.insert opticalTask }

def opticalDeployment : Deployment where
  plans := [(7, ⟨localKind.compose, validateDefinition_kind (by simp [kindWorkflows])⟩)]
  activeWorkflowKeys := [localKind.compose.workflowKey]
  revisions := [(1, ⟨7, localKind.compose.workflowKey, .root, localKind.compose.steps.map (·.stepKey)⟩)]

/-- The Process that has decoded it. -/
def decodeImageRecord : ProcessRecord :=
  (0, { team := 0, execution := 0, task := 0, root := 0, stepKey := "decode_image",
        processKey := "intake.decode.text_json_html", contractVersion := "v1",
        materializationKey := ⟨localKind.workflowKey, 1, 0, "acquire_local", .succeeded, [("media_image", true)],
          ["acquire.decode_image"]⟩,
        inputManifest := 0, availableAt := 0, priorityRank := 0, createdAt := 0, maxRetries := 3, maxRecoveries := 3,
        safeReplay := true })

theorem routeAfterTerminalProcess_honours_optical :
    (∃ error, (routeAfterTerminalProcessTx opticalDeployment 1 0 opticalRow decodeImageRecord .succeeded {} none).run
        opticalDatabase = .error error) ∨
      ∃ decision, routeDecision localKind.compose 0 opticalRow "decode_image" .succeeded
          { typedRouteContext opticalDeployment opticalDatabase 0 opticalRow with
            operationMode := none, gateAction := none } = .ok decision ∧
        ∀ target ∈ cleanTargets localKind.compose decision, cleanStepStrategies.lookup target.1 = some .docOcr ∧
          cleanStrategyForStep target.1 target.2 = .ok .docOcr :=
  routeAfterTerminalProcess_honours 1 (by decide +kernel) (by simp [kindWorkflows]) rfl rfl

end KnowledgeBase
