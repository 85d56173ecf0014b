import KnowledgeBase.Invariant.Route
import KnowledgeBase.Simulation.Terminal

/-!
# Routes taken from alike stores

Taking the routes of one decision keeps two stores alike. A lagging Execution is moved by the first route, unless
the Process the route leads to was materialized before or a review gate is open already: `Database.Untaken`
excludes both. What a guard may read of the route context plays no part once the decision is made, except that a
review gate must have evidence on neither side.
-/

namespace KnowledgeBase

open Transaction

/-! ### what a route meets -/

/-- The second key is the first, or that of a selected-output control routed to from it, directly or through
others. -/
inductive WorkflowDefinition.Follows (plan : WorkflowDefinition) : String → String → Prop
  | refl (key : String) : plan.Follows key key
  | step {key key' : String} (route : WorkflowRouteDefinition) (target : WorkflowStepDefinition)
      (hroute : route ∈ plan.routes) (hfrom : route.fromStepKey = key) (htarget : plan.step? route.toStepKey = some target)
      (hcontrol : target.controlKey = some "selected_output") (hrest : plan.Follows target.stepKey key') :
      plan.Follows key key'

/-- No route from the step, nor from a selected-output control behind it, has led the Execution to a Process, and
no review gate of the Execution is open. -/
def Database.Untaken (s : Database) (plan : WorkflowDefinition) (e : ExecutionId) (key : String) : Prop :=
  (∀ id p, s.processes.get? id = some p → p.execution = e → ¬ plan.Follows key p.materializationKey.sourceStepKey) ∧
    ∀ g gate, s.gates.get? g = some gate → gate.execution = e → gate.status = .opened →
      gate.gateKind ≠ "human_review_gate"

theorem Database.Untaken.follow {s : Database} {plan : WorkflowDefinition} {e : ExecutionId} {key : String}
    (h : s.Untaken plan e key) {route : WorkflowRouteDefinition} {target : WorkflowStepDefinition}
    (hroute : route ∈ plan.routes) (hfrom : route.fromStepKey = key) (htarget : plan.step? route.toStepKey = some target)
    (hcontrol : target.controlKey = some "selected_output") : s.Untaken plan e target.stepKey :=
  ⟨fun id p hp he hf => h.1 id p hp he (.step route target hroute hfrom htarget hcontrol hf), h.2⟩

/-- A review gate entered in this context has no evidence. -/
def Blind (source : Option ProcessRecord) (context : RouteContext) : Prop :=
  source = none ∨ context.admissionResult ≠ some .humanReviewRequired

/-- Either no lag is to end, or the routes from the step are untaken. -/
def Moves (lag lag' : Option ExecutionId) (plan : WorkflowDefinition) (e : ExecutionId) (key : String)
    (s t : Database) : Prop :=
  s.Alike lag t ∧ (lag' = lag ∨ s.Untaken plan e key)

variable {lag lag' : Option ExecutionId} {plan : WorkflowDefinition} {e : ExecutionId}

/-! ### materialization -/

theorem coupled_insertProcessTx (hl : Settles e lag lag') (now : Time) (process : ProcessRow) :
    Coupled (Database.Alike lag) (insertProcessTx now e process) (insertProcessTx now e process)
      (Same (Database.Alike lag')) := by
  refine Coupled.readBind fun a b hab => ?_
  simp only [hab.processes]
  refine Coupled.bindSame (R := Database.Alike lag) (Coupled.modify fun s t hst => ?_) fun _ => ?_
  · exact hst.modify (fun db => { db with processes := db.processes.insert process }) (fun _ => rfl) (fun _ => rfl)
      fun _ _ => rfl
  refine (coupled_casExecution_move hl (fun r r' hr => hr.isOpen) (fun r hr => by rw [hr]; rfl)
    fun r r' hr => ?_).bindSame fun updated => ?_
  · exact hr.write (fun x => { x with currentProcess := some b.processes.next }) rfl rfl rfl (by simp)
  · refine (Coupled.raiseIf rfl).bindRel fun _ _ _ => coupled_enqueueTx _ _ _ _ _ _ _ _

theorem primaryInput_congr {s t : Database} (hp : s.processes = t.processes) (ho : s.selectedOutputs = t.selectedOutputs)
    (plan : WorkflowDefinition) (e : ExecutionId) (step : WorkflowStepDefinition)
    (bindings : List WorkflowBindingDefinition) (primary : Option Ref × Time) :
    primaryInput s plan e step bindings primary = primaryInput t plan e step bindings primary := by
  have hprior : ∀ key, priorOutput? s plan e key = priorOutput? t plan e key := fun key => by
    unfold priorOutput? Database.selectedOutput?
    rw [hp, ho]
  induction bindings generalizing primary with
  | nil => rfl
  | cons binding bindings ih =>
    unfold primaryInput
    simp only [hprior, ih]

theorem Database.Alike.inputManifest {s t : Database} (h : s.Alike lag t) (plan : WorkflowDefinition) (e : ExecutionId)
    {l : Prop} {row row' : ExecutionRow} (hrow : row.Alike l row') (step : WorkflowStepDefinition) :
    KnowledgeBase.inputManifest s plan e row step = KnowledgeBase.inputManifest t plan e row' step := by
  unfold KnowledgeBase.inputManifest
  rw [primaryInput_congr h.processes h.selectedOutputs, hrow.reads (·.manifest) fun _ => rfl]

theorem newProcess_congr (d : Deployment) (now : Time) (e : ExecutionId) {l : Prop} {row row' : ExecutionRow}
    (hrow : row.Alike l row') {task task' : TaskRow} (htask : task.shared = task'.shared)
    (step : WorkflowStepDefinition) (key : RouteDecisionPayload) (input : Ref) :
    newProcess d now e row task step key input = newProcess d now e row' task' step key input := by
  rw [hrow.reads (fun r => newProcess d now e r task step key input) fun _ => rfl,
    TaskRow.reads htask (fun r => newProcess d now e row' r step key input) fun _ => rfl]

theorem coupled_materializeProcessTx (hl : Settles e lag lag') (d : Deployment) (now : Time) {l : Prop}
    {row row' : ExecutionRow} (hrow : row.Alike l row') (step : WorkflowStepDefinition) (key : RouteDecisionPayload) :
    Coupled (Moves lag lag' plan e key.sourceStepKey) (materializeProcessTx d now plan e row step key)
      (materializeProcessTx d now plan e row' step key) (Same (Database.Alike lag')) := by
  refine Coupled.readBind fun a b hab => ?_
  have hraise : (!(d.revisions.lookup row.workflowRevision).any fun revision =>
      revision.stepKeys.contains step.stepKey) = !(d.revisions.lookup row'.workflowRevision).any fun revision =>
      revision.stepKeys.contains step.stepKey := by rw [hrow.reads (·.workflowRevision) fun _ => rfl]
  refine (Coupled.raiseIf hraise).bindRel fun _ _ _ => ?_
  have htask : Option.Rel (fun r r' : TaskRow => r.shared = r'.shared) (a.tasks.get? row.task)
      (b.tasks.get? row'.task) := by
    rw [hrow.reads (·.task) fun _ => rfl]
    exact hab.1.task row'.task
  refine (Coupled.orRaise htask).bindRel fun task task' htask => ?_
  have hseal : actualBindingError row task.requestIntent (step.processKey.getD "") =
      actualBindingError row' task'.requestIntent (step.processKey.getD "") := by
    rw [TaskRow.reads htask (·.requestIntent) fun _ => rfl]
    exact hrow.reads (fun r => actualBindingError r task'.requestIntent (step.processKey.getD "")) fun _ => rfl
  refine (Coupled.ofExcept (by rw [hseal])).bindSame fun _ => ?_
  refine (Coupled.ofExcept (hab.1.inputManifest plan e hrow step)).bindSame fun input => ?_
  have hmaterialized : a.materialized e step.stepKey key = b.materialized e step.stepKey key := by
    unfold Database.materialized
    rw [hab.1.processes]
  refine Coupled.ite (by rw [hmaterialized]) (fun hm => ?_) fun _ => ?_
  · rcases hab.2 with hlag | huntaken
    · exact Coupled.pure fun s t h => ⟨rfl, hlag ▸ h.1⟩
    · obtain ⟨id, p, hp, hkey⟩ := Table.any_eq_true_iff.1 hm
      simp only [Bool.and_eq_true, beq_iff_eq] at hkey
      refine absurd ?_ (huntaken.1 id p hp hkey.1.1)
      rw [hkey.2]
      exact .refl _
  · rw [newProcess_congr d now e hrow htask]
    exact ((coupled_insertProcessTx hl now _).pre fun s t h => h.1).bindSame fun _ => Coupled.done

/-! ### controls -/

/-- A step that fails the Execution for its integrity keeps two stores alike, whatever the codes and the messages. -/
theorem coupled_failFalse {P : Database → Database → Prop} (hP : ∀ s t, P s t → Database.Alike lag s t)
    (hl : Settles e lag lag') (now : Time) (code code' message message' : String) :
    Coupled P (do failExecutionIntegrityTx now e code message; pure false)
      (do failExecutionIntegrityTx now e code' message'; pure false) (Same (Database.Alike lag')) := by
  have hfails := coupled_failExecutionIntegrityTx now hl code code' message message'
  exact (hfails.pre hP).bindSame fun _ => Coupled.done

theorem evidence_error {source : Option ProcessRecord} {context : RouteContext} (h : Blind source context)
    (db : Database) (e : ExecutionId) (row : ExecutionRow) : ∃ message,
      (if context.admissionResult != some .humanReviewRequired then
        (.error "Human-review routing lacks the required admission result" : Except String ReviewEvidence)
      else if row.role == .scatterRoot then scatterHumanReviewEvidence db e row (source.map (·.1))
      else humanReviewEvidence db e (source.map (·.1))) = .error message := by
  by_cases hadmission : context.admissionResult = some .humanReviewRequired
  · obtain rfl := h.resolve_right fun hn => hn hadmission
    rw [if_neg (by simp [hadmission])]
    split
    · exact ⟨_, rfl⟩
    · exact ⟨_, rfl⟩
  · exact ⟨_, if_pos (by simpa using hadmission)⟩

theorem coupled_enterHumanReviewGateTx (hl : Settles e lag lag') (now : Time) {step : WorkflowStepDefinition}
    (hstep : step.controlKey = some "human_review_gate") (key : RouteDecisionPayload)
    {source : Option ProcessRecord} {context context' : RouteContext} (hc : Blind source context)
    (hc' : Blind source context') :
    Coupled (Moves lag lag' plan e key.sourceStepKey)
      (enterHumanReviewGateTx now e step key (source.map (·.1)) context)
      (enterHumanReviewGateTx now e step key (source.map (·.1)) context') (Same (Database.Alike lag')) := by
  refine Coupled.readBind fun a b hab => ?_
  refine Coupled.ite (by rw [hab.1.gates]) (fun hopen => ?_) fun _ => ?_
  · rcases hab.2 with hlag | huntaken
    · exact Coupled.pure fun s t h => ⟨rfl, hlag ▸ h.1⟩
    · obtain ⟨g, gate, hg, hkind⟩ := Table.any_eq_true_iff.1 hopen
      simp only [Bool.and_eq_true, beq_iff_eq, hstep, Option.getD_some] at hkind
      exact absurd hkind.1.2 (huntaken.2 g gate hg hkind.1.1 hkind.2)
  · refine (coupled_execution (P := Moves lag lag' plan e key.sourceStepKey) (fun _ _ h => h.1) e).bindWith
      fun r r' hr => ?_
    refine (coupled_unlessClosed hl (fun _ _ h => h.1) hr ?_)
    obtain ⟨m, hm⟩ := evidence_error hc a e r
    obtain ⟨m', hm'⟩ := evidence_error hc' b e r'
    rw [hm, hm']
    exact coupled_failFalse (fun _ _ h => h.1) hl now _ _ m m'

theorem paired_releaseScatterChildTx (now : Time) (row row' : ExecutionRow) (changeSet : ChangeSetId)
    {child child' : ExecutionId × ExecutionRow} (hchild : AlikeRecord lag child child') :
    Paired lag (releaseScatterChildTx now row changeSet child) (releaseScatterChildTx now row' changeSet child') := by
  unfold releaseScatterChildTx
  rw [← hchild.1]
  refine (coupled_casExecution (fun r r' hr => ?_) fun r r' hr => ?_).bindSame fun updated => ?_
  · exact hr.waits .durablePrerequisite (by decide) fun ref => ref == some (.changeSet changeSet)
  · exact hr.write id rfl rfl rfl (by simp)
  · exact Coupled.ite Iff.rfl (fun _ => coupled_enqueueTx _ _ _ _ _ _ _ _) fun _ => Coupled.done

theorem paired_releaseScatterChildrenTx (now : Time) (root : ExecutionId) (row row' : ExecutionRow)
    (changeSet : ChangeSetId) :
    Paired lag (releaseScatterChildrenTx now root row changeSet) (releaseScatterChildrenTx now root row' changeSet) := by
  refine Coupled.readBind fun a b hab => ?_
  refine Coupled.forEach (hab.select fun k r r' hr => ?_) fun c c' hc => paired_releaseScatterChildTx now row row' changeSet hc
  have hawaits : r.awaitsRelease changeSet = r'.awaitsRelease changeSet :=
    hr.waits .durablePrerequisite (by decide) fun ref => ref == some (.changeSet changeSet)
  rw [hr.reads (·.parent) fun _ => rfl, hr.reads (·.root) fun _ => rfl, hr.reads (·.role) fun _ => rfl, hawaits]

theorem coupled_joinWaitTx (hl : Settles e lag lag') (changeSet : ChangeSetId) :
    Coupled (Database.Alike lag) (joinWaitTx e changeSet) (joinWaitTx e changeSet) (Same (Database.Alike lag')) := by
  refine coupled_casExecution_move hl (fun r r' hr => hr.isOpen) (fun r hr => by rw [hr]; rfl) fun r r' hr => ?_
  exact ⟨congrArg (fun x : ExecutionRow => { x with currentProcess := none }) hr.shared,
    Or.inl ⟨rfl, fun _ => ⟨rfl, rfl⟩⟩⟩

theorem coupled_enterScatterChildrenJoinTx (hl : Settles e lag lag') (now : Time) (key : RouteDecisionPayload)
    (source : Option ProcessId) :
    Coupled (Database.Alike lag) (enterScatterChildrenJoinTx now e key source)
      (enterScatterChildrenJoinTx now e key source) (Same (Database.Alike lag')) := by
  have fail := coupled_failFalse (fun _ _ h => h) hl now
  refine (coupled_execution (fun _ _ h => h) e).bindWith fun r r' hr => Coupled.readBind fun a b hab => ?_
  refine coupled_unlessClosed hl (fun _ _ h => h) hr ?_
  rw [hr.reads (·.task) fun _ => rfl, hr.reads (·.intakeSnapshot) fun _ => rfl, hab.2.acceptance, hab.2.facts]
  cases (b.acceptance? r'.task e).filter fun a => r'.intakeSnapshot == some a.1 with
  | none => exact fail _ _ _ _
  | some accepted =>
    obtain ⟨snapshot, changeSet⟩ := accepted
    simp only
    have hproof : a.scatterRootTerminalProof e source = b.scatterRootTerminalProof e source := by
      unfold Database.scatterRootTerminalProof
      rw [hab.2.processes]
    cases b.facts.scatterExpectedMembers snapshot changeSet with
    | none => exact fail _ _ _ _
    | some expected =>
      cases expected with
      | nil =>
        simp only
        rw [hproof]
        cases b.scatterRootTerminalProof e source with
        | none => exact fail _ _ _ _
        | some proof =>
          exact (coupled_terminalizeExecutionTx now hl _ _ _ _ _ _ _).bindSame fun _ => Coupled.done
      | cons member members =>
        refine (paired_releaseScatterChildrenTx now e r r' changeSet).bindSame fun _ => ?_
        refine (coupled_joinWaitTx hl changeSet).bindSame fun updated => ?_
        exact (paired_refreshExecutionCountsTx e).bindSame fun _ => Coupled.done

/-! ### selected outputs -/

/-- A decision for routes out of one step of the plan. -/
def RouteDecision.LeavesFrom (decision : RouteDecision) (plan : WorkflowDefinition) (key : String) : Prop :=
  decision.payload.sourceStepKey = key ∧ ∀ route ∈ decision.routes, route ∈ plan.routes ∧ route.fromStepKey = key

theorem leavesFrom_of_routeDecision {row : ExecutionRow} {key : String} {selector : WorkflowOutcomeSelector}
    {context : RouteContext} {decision : RouteDecision}
    (h : routeDecision plan e row key selector context = .ok decision) : decision.LeavesFrom plan key := by
  refine ⟨?_, fun route hroute => ?_⟩
  · unfold routeDecision at h
    split at h
    · cases h
    · cases hs : selectRoutes plan context (routeCandidates plan key selector) [] with
      | error _ => simp [hs, bind, Except.bind] at h
      | ok q =>
        simp only [hs, bind, Except.bind] at h
        split at h
        · cases h
        · cases h
          rfl
  · obtain ⟨hmem, hfrom, -⟩ := mem_routes_of_routeDecision h hroute
    exact ⟨hmem, hfrom⟩

/-- Taking the routes of a decision of the plan keeps two stores alike and moves the Execution. -/
def RoutesAlike (plan : WorkflowDefinition) (apply : ApplyRoutes) : Prop :=
  ∀ (lag lag' : Option ExecutionId) (e : ExecutionId) (l : Prop) (row row' : ExecutionRow) (decision : RouteDecision)
    (source : Option ProcessRecord) (context context' : RouteContext) (error error' : Option String) (key : String),
    Settles e lag lag' → row.Alike l row' → context.operationMode = context'.operationMode → Blind source context →
    Blind source context' → decision.LeavesFrom plan key →
    Coupled (Moves lag lag' plan e key) (apply e row decision source context error)
      (apply e row' decision source context' error') (Same (Database.Alike lag'))

theorem outputCandidates_congr {s t : Database} (h : s.processes = t.processes) (e : ExecutionId)
    (bindings : List WorkflowBindingDefinition) : outputCandidates s e bindings = outputCandidates t e bindings := by
  have hbinding : bindingCandidates s e = bindingCandidates t e := by
    funext binding
    unfold bindingCandidates
    rw [h]
  unfold outputCandidates
  rw [hbinding]

theorem recordSelectedOutputTx_eq (selection : SelectedOutputRow) : recordSelectedOutputTx selection =
    modify fun db => if (db.selectedOutput? selection.execution selection.controlStepKey).isSome then db
      else { db with selectedOutputs := db.selectedOutputs.insert selection } := by
  unfold recordSelectedOutputTx
  congr 1
  funext db
  cases db.selectedOutput? selection.execution selection.controlStepKey with
  | none => rfl
  | some _ => rfl

theorem coupled_recordSelectedOutputTx (selection : SelectedOutputRow) (key : String) :
    Coupled (Moves lag lag' plan e key) (recordSelectedOutputTx selection) (recordSelectedOutputTx selection)
      (Same (Moves lag lag' plan e key)) := by
  rw [recordSelectedOutputTx_eq]
  refine Coupled.modify fun s t hst => ⟨hst.1.modify (fun db =>
    if (db.selectedOutput? selection.execution selection.controlStepKey).isSome then db
    else { db with selectedOutputs := db.selectedOutputs.insert selection }) (fun db => ?_) (fun db => ?_)
      fun s t => ?_, hst.2.imp id fun h => ?_⟩
  · split <;> rfl
  · split <;> rfl
  · have hover : (s.overlay t).selectedOutput? selection.execution selection.controlStepKey =
        t.selectedOutput? selection.execution selection.controlStepKey := rfl
    rw [hover]
    by_cases ht : (t.selectedOutput? selection.execution selection.controlStepKey).isSome = true
    · rw [if_pos ht, if_pos ht]
      split <;> rfl
    · rw [if_neg ht, if_neg ht]
      split <;> rfl
  · split
    · exact h
    · exact h

theorem coupled_enterSelectedOutputWith {apply : ApplyRoutes} (happly : RoutesAlike plan apply)
    (hl : Settles e lag lag') (now : Time) (step : WorkflowStepDefinition) (key : RouteDecisionPayload) :
    Coupled (Moves lag lag' plan e step.stepKey) (enterSelectedOutputWith now plan apply e step key)
      (enterSelectedOutputWith now plan apply e step key) (Same (Database.Alike lag')) := by
  have fail := coupled_failFalse (P := Moves lag lag' plan e step.stepKey) (fun _ _ h => h.1) hl now
  refine (coupled_execution (P := Moves lag lag' plan e step.stepKey) (fun _ _ h => h.1) e).bindWith
    fun r r' hr => Coupled.readBind fun a b hab => ?_
  refine coupled_unlessClosed hl (fun _ _ h => h.1) hr ?_
  have hfallback : ∀ bindings, fallbackCandidate step r bindings = fallbackCandidate step r' bindings :=
    fun bindings => hr.reads (fun r => fallbackCandidate step r bindings) fun _ => rfl
  have hdecision : routeDecision plan e r step.stepKey .succeeded {} =
      routeDecision plan e r' step.stepKey .succeeded {} :=
    hr.reads (fun r => routeDecision plan e r step.stepKey .succeeded {}) fun _ => rfl
  rw [outputCandidates_congr hab.2.1.processes, hab.2.1.facts]
  simp only [hfallback, hdecision]
  cases outputCandidates b e (plan.bindings.filter fun binding => binding.targetStepKey == step.stepKey) with
  | none => exact fail _ _ _ _
  | some found =>
    simp only
    generalize (if found.isEmpty = true then _ else found) = candidates
    match candidates with
    | [] => exact fail _ _ _ _
    | _ :: _ :: _ => exact fail _ _ _ _
    | [selected] =>
      refine (coupled_recordSelectedOutputTx _ _).bindSame fun _ => Coupled.readBind fun a' b' hab' => ?_
      have hrecorded : ∀ k, a'.selectedOutput? e k = b'.selectedOutput? e k := fun k => by
        unfold Database.selectedOutput?
        rw [hab'.1.selectedOutputs]
      refine Coupled.ite (by rw [hrecorded]) (fun _ => ?_) fun _ => fail _ _ _ _
      cases hroute : routeDecision plan e r' step.stepKey .succeeded {} with
      | error _ => exact fun _ _ _ => trivial
      | ok decision =>
        exact happly lag lag' e _ r r' decision _ {} {} none none step.stepKey hl hr rfl (Or.inr (by simp))
          (Or.inr (by simp)) (leavesFrom_of_routeDecision hroute)

/-! ### the routes of a decision -/

section routing

variable (d : Deployment) (now : Time) {apply : ApplyRoutes}

theorem coupled_enterControlWith (happly : RoutesAlike plan apply) (hl : Settles e lag lag')
    {step : WorkflowStepDefinition} {key : RouteDecisionPayload} {route : WorkflowRouteDefinition}
    (hroute : route ∈ plan.routes) (hfrom : route.fromStepKey = key.sourceStepKey)
    (htarget : plan.step? route.toStepKey = some step) {source : Option ProcessRecord}
    {context context' : RouteContext} (hc : Blind source context) (hc' : Blind source context') :
    Coupled (Moves lag lag' plan e key.sourceStepKey) (enterControlWith now plan apply e step key source context)
      (enterControlWith now plan apply e step key source context') (Same (Database.Alike lag')) := by
  unfold enterControlWith
  refine Coupled.ite Iff.rfl (fun _ => ?_) fun _ => Coupled.ite Iff.rfl (fun hselected => ?_) fun _ =>
    Coupled.ite Iff.rfl (fun hgate => ?_) fun _ => Coupled.throw
  · exact (coupled_enterScatterChildrenJoinTx hl now key _).pre fun _ _ h => h.1
  · have hcontrol : step.controlKey = some "selected_output" := by simpa using hselected
    refine (coupled_enterSelectedOutputWith happly hl now step key).pre fun s t h => ⟨h.1, h.2.imp id fun hu => ?_⟩
    exact hu.follow hroute hfrom htarget hcontrol
  · exact coupled_enterHumanReviewGateTx hl now (by simpa using hgate) key hc hc'

theorem coupled_applyRouteWith (happly : RoutesAlike plan apply) (hl : Settles e lag lag') {l : Prop}
    {row row' : ExecutionRow} (hrow : row.Alike l row') {key : RouteDecisionPayload}
    {source : Option ProcessRecord} {context context' : RouteContext} (hmode : context.operationMode = context'.operationMode)
    (hc : Blind source context) (hc' : Blind source context') (error error' : Option String)
    {route : WorkflowRouteDefinition} (hroute : route ∈ plan.routes) (hfrom : route.fromStepKey = key.sourceStepKey) :
    Coupled (Moves lag lag' plan e key.sourceStepKey)
      (applyRouteWith d now plan apply e row key source context error route)
      (applyRouteWith d now plan apply e row' key source context' error' route) (Same (Database.Alike lag')) := by
  have fail := coupled_failFalse (P := Moves lag lag' plan e key.sourceStepKey) (fun _ _ h => h.1) hl now
  unfold applyRouteWith
  cases htarget : plan.step? route.toStepKey with
  | none => exact fail _ _ _ _
  | some target =>
    simp only
    rw [hmode]
    cases target.stepKind with
    | terminal =>
      exact ((coupled_terminalizeExecutionTx now hl _ _ _ _ _ _ _).pre fun _ _ h => h.1).bindSame fun _ => Coupled.done
    | process => exact coupled_materializeProcessTx hl d now hrow target key
    | control => exact coupled_enterControlWith now happly hl hroute hfrom htarget hc hc'
    | start => exact fail _ _ _ _
    | join => exact fail _ _ _ _

theorem routesAlike_applyRoutesWith (happly : RoutesAlike plan apply) :
    RoutesAlike plan (applyRoutesWith d now plan apply) := by
  rintro lag lag' e l row row' ⟨routes, payload⟩ source context context' error error' key hl hrow hmode hc hc' ⟨rfl, hroutes⟩
  unfold applyRoutesWith
  cases routes with
  | nil =>
    exact coupled_failFalse (fun _ _ h => h.1) hl now _ _ _ _
  | cons route routes =>
    obtain ⟨hmem, hfrom⟩ := hroutes route List.mem_cons_self
    refine (coupled_applyRouteWith d now happly hl hrow hmode hc hc' error error' hmem hfrom).bindSame fun moved => ?_
    -- the first route has moved the Execution; the others keep the stores alike
    refine (Coupled.anyEach fun route' hroute' => ?_).bindSame fun moved' => Coupled.done
    obtain ⟨hmem', hfrom'⟩ := hroutes route' (List.mem_cons_of_mem _ hroute')
    exact (coupled_applyRouteWith d now happly (Or.inl rfl) hrow hmode hc hc' error error' hmem' hfrom').pre
      fun _ _ h => ⟨h, Or.inl rfl⟩

theorem routesAlike_applyRoutesDepth (depth : Nat) : RoutesAlike plan (applyRoutesDepth d now plan depth) := by
  induction depth with
  | zero =>
    refine routesAlike_applyRoutesWith d now ?_
    intro lag lag' e l row row' decision source context context' error error' key hl hrow hmode hc hc' hfrom
    exact Coupled.throw
  | succ depth ih => exact routesAlike_applyRoutesWith d now ih

/-- The routes of a decision keep two stores alike, whatever the contexts in which the decision was made. -/
theorem routesAlike_applyRoutesTx : RoutesAlike plan (applyRoutesTx d now plan) :=
  routesAlike_applyRoutesDepth d now plan.steps.length

end routing

end KnowledgeBase
