import KnowledgeBase.Invariant.Confined

/-!
# The work of an Execution

Routes, outcomes, leases, deliveries, gate decisions, claims and the parts of a repair pass work in the trees of
their Execution.
-/

namespace KnowledgeBase

open Transaction Database

section routes

variable {R : ExecutionId → Prop} {b : Database} (d : Deployment) (now : Time) {e : ExecutionId}

/-! ### controls -/

theorem confined_failFalse (he : b.Within R e) (code message : String) :
    Confined R b (do failExecutionIntegrityTx now e code message; pure false) :=
  (confined_failExecutionIntegrityTx now he code message).bind fun _ => Triple.keep

theorem keeps_ledger_insertProcessTx (e : ExecutionId) (process : ProcessRow) :
    Keeps ledger (insertProcessTx now e process) :=
  Keeps.get.bind fun _ => (Keeps.modify fun _ => by rfl).bind fun _ =>
    (keeps_ledger_casExecution (fun _ => by rfl) _ _).bind fun _ => Keeps.guard <|
      keeps_ledger_enqueueTx _ _ _ _

theorem confined_materializeProcessTx (plan : WorkflowDefinition) (row : ExecutionRow) (step : WorkflowStepDefinition)
    (key : RouteDecisionPayload) : Confined R b (materializeProcessTx d now plan e row step key) := by
  refine Triple.get_frame.bind fun db => Triple.guard <| Triple.orRaise_frame.bind fun task =>
    Triple.ofExcept_frame.bind fun _ => Triple.ofExcept_frame.bind fun input => ?_
  refine Triple.ite (fun _ => Triple.keep) fun _ => ?_
  exact (confined_of_ledger (keeps_ledger_insertProcessTx now _ _)).bind fun _ => Triple.keep

theorem keeps_ledger_openGateTx (e : ExecutionId) (current : ExecutionRow) (gateKind : String)
    (key : RouteDecisionPayload) (evidence : ReviewEvidence) :
    Keeps ledger (openGateTx e current gateKind key evidence) :=
  Keeps.get.bind fun _ => (Keeps.modify fun _ => by rfl).bind fun _ =>
    (keeps_ledger_casExecution (fun _ => by rfl) _ _).bind fun _ => Keeps.raiseIf _ _

theorem confined_enterHumanReviewGateTx (he : b.Within R e) (step : WorkflowStepDefinition) (key : RouteDecisionPayload)
    (source : Option ProcessId) (context : RouteContext) :
    Confined R b (enterHumanReviewGateTx now e step key source context) := by
  refine Triple.get_frame.bind fun db => Triple.ite (fun _ => Triple.keep) fun _ => ?_
  refine confined_execution he fun current _ => Triple.ite (fun _ => Triple.keep) fun _ => ?_
  dsimp only
  split
  · exact (confined_failExecutionIntegrityTx now he _ _).bind fun _ => Triple.keep
  split
  · exact (confined_failExecutionIntegrityTx now he _ _).bind fun _ => Triple.keep
  · exact (confined_of_ledger (keeps_ledger_openGateTx _ _ _ _ _)).bind fun _ => Triple.keep

theorem keeps_ledger_releaseScatterChildrenTx (root : ExecutionId) (row : ExecutionRow) (changeSet : ChangeSetId) :
    Keeps ledger (releaseScatterChildrenTx now root row changeSet) :=
  Keeps.get.bind fun _ => Keeps.forEach fun _ _ => (keeps_ledger_casExecution (fun _ => by rfl) _ _).bind fun _ =>
    Keeps.ite (keeps_ledger_enqueueTx _ _ _ _) (Keeps.pure _)

theorem confined_enterScatterChildrenJoinTx (he : b.Within R e) (key : RouteDecisionPayload)
    (source : Option ProcessId) : Confined R b (enterScatterChildrenJoinTx now e key source) := by
  refine confined_execution he fun current _ => Triple.get_frame.bind fun db =>
    Triple.ite (fun _ => Triple.keep) fun _ => ?_
  have fail := confined_failFalse now he
  split
  · exact fail _ _
  split
  · exact fail _ _
  · split
    · exact fail _ _
    · exact (confined_terminalizeExecutionTx now he _ _ _ _ _).bind fun _ => Triple.keep
  · exact (confined_of_ledger (keeps_ledger_releaseScatterChildrenTx now _ _ _)).bind fun _ =>
      (confined_of_ledger (keeps_ledger_casExecution (fun _ => by rfl) _ _)).bind fun updated =>
        (confined_refreshExecutionCountsTx he).bind fun _ => Triple.keep

/-! ### the routes of a decision -/

/-- Routes that are applied in the trees of the Execution they are applied to. -/
def ConfinedRoutes (R : ExecutionId → Prop) (apply : ApplyRoutes) : Prop :=
  ∀ (b : Database) (e : ExecutionId) (row : ExecutionRow) (decision : RouteDecision) (source : Option ProcessRecord)
    (context : RouteContext) (error : Option String), b.Within R e →
    Confined R b (apply e row decision source context error)

variable (plan : WorkflowDefinition) {apply : ApplyRoutes} (ha : ConfinedRoutes R apply)

include ha

theorem confined_enterSelectedOutputWith (he : b.Within R e) (step : WorkflowStepDefinition)
    (key : RouteDecisionPayload) : Confined R b (enterSelectedOutputWith now plan apply e step key) := by
  refine confined_execution he fun current _ => Triple.get_frame.bind fun db =>
    Triple.ite (fun _ => Triple.keep) fun _ => ?_
  have fail := confined_failFalse now he
  split
  · exact fail _ _
  split
  · exact fail _ _
  · refine (confined_of_ledger (Keeps.modify fun s => by split <;> rfl)).bind fun _ => Triple.get_frame.bind fun _ =>
      Triple.ite (fun _ => ?_) fun _ => fail _ _
    exact Triple.ofExcept_frame.bind fun decision => ha b e _ _ _ _ _ he
  · exact fail _ _

theorem confined_applyRoutesWith : ConfinedRoutes R (applyRoutesWith d now plan apply) := by
  intro b e row decision source context error he
  have fail := confined_failFalse now he
  refine Triple.ite (fun _ => fail _ _) fun _ => Triple.anyEach fun route _ => ?_
  unfold applyRouteWith
  split
  · exact fail _ _
  · split
    · exact (confined_terminalizeExecutionTx now he _ _ _ _ _).bind fun _ => Triple.keep
    · exact confined_materializeProcessTx d now plan _ _ _
    · unfold enterControlWith
      refine Triple.ite (fun _ => confined_enterScatterChildrenJoinTx now he _ _) fun _ => ?_
      refine Triple.ite (fun _ => confined_enterSelectedOutputWith now plan ha he _ _) fun _ => ?_
      exact Triple.ite (fun _ => confined_enterHumanReviewGateTx now he _ _ _ _) fun _ => Triple.throw
    · exact fail _ _

omit ha

theorem confined_applyRoutesTx : ConfinedRoutes R (applyRoutesTx d now plan) := by
  unfold applyRoutesTx
  generalize plan.steps.length = depth
  induction depth with
  | zero => exact confined_applyRoutesWith d now plan fun _ _ _ _ _ _ _ _ => Triple.throw
  | succ depth ih => exact confined_applyRoutesWith d now plan ih

/-! ### routing after a terminal Process -/

theorem keeps_ledger_sealCleanRouteTx (e : ExecutionId) (row : ExecutionRow) (decision : RouteDecision)
    (intent : Option RequestIntent) : Keeps ledger (sealCleanRouteTx e row plan decision intent) := by
  unfold sealCleanRouteTx
  split
  · exact Keeps.pure _
  · refine Keeps.ite (Keeps.pure _) (Keeps.guard <| (Keeps.ofExcept _).bind fun _ => ?_)
    refine Keeps.ite (Keeps.guard <| keeps_execution _) (Keeps.bind ?_ fun _ => keeps_execution _)
    exact Keeps.get.bind fun _ => (Keeps.orRaise _ _).bind fun _ =>
      (keeps_ledger_casExecution (fun _ => by rfl) _ _).bind fun _ => Keeps.raiseIf _ _

theorem confined_routeAfterTerminalProcessTx (he : b.Within R e) (row : ExecutionRow) (process : ProcessRecord)
    (selector : WorkflowOutcomeSelector) (extra : OutcomeExtra) (terminalError : Option String) :
    Confined R b (routeAfterTerminalProcessTx d now e row process selector extra terminalError) :=
  Triple.ofExcept_frame.bind fun plan => Triple.get_frame.bind fun _ => Triple.ofExcept_frame.bind fun decision =>
    (confined_of_ledger (keeps_ledger_sealCleanRouteTx plan e row decision _)).bind fun _ =>
      (confined_applyRoutesTx d now plan b e _ _ _ _ _ he).bind fun _ => Triple.keep

theorem keeps_ledger_failProcessTx (p : ProcessRecord) (errorCode failureDisposition : String)
    (acceptedOutcome : Option OutcomeContent) :
    Keeps ledger (failProcessTx now p errorCode failureDisposition acceptedOutcome) := by
  refine (keeps_ledger_casProcess _ _ _).bind fun _ => Keeps.ite (Keeps.pure _) (Keeps.get.bind fun db => ?_)
  split
  · exact Keeps.pure _
  · exact Keeps.raiseIf _ _

theorem confined_failAndRouteTx (he : b.Within R e) (row : ExecutionRow) (p : ProcessRecord)
    (errorCode failureDisposition : String) (acceptedOutcome : Option OutcomeContent) (extra : OutcomeExtra) :
    Confined R b (failAndRouteTx d now e row p errorCode failureDisposition acceptedOutcome extra) :=
  (confined_of_ledger (keeps_ledger_failProcessTx now p _ _ _)).bind fun _ =>
    confined_routeAfterTerminalProcessTx d now he _ _ _ _ _

end routes

/-! ### outcomes -/

section outcomes

variable {R : ExecutionId → Prop} {b : Database} (d : Deployment) (now : Time) {e : ExecutionId} (he : b.Within R e)

include he

theorem confined_acceptSnapshotTx (t : TaskId) (snapshot : SnapshotId) (changeSet : ChangeSetId) :
    Confined R b (acceptSnapshotTx e t snapshot changeSet) := by
  refine (confined_of_ledger (keeps_ledger_casExecution (fun _ => by rfl) _ _)).bind fun _ =>
    Triple.guard <| Triple.bind ?_ fun _ => Triple.raiseIf_frame
  refine confined_casTask_of_fence he (fun _ => by rfl) fun row hc => ?_
  simp only [Bool.and_eq_true, beq_iff_eq] at hc
  exact hc.1

theorem confined_bindCollectionTx (t : TaskId) (acceptance : ScatterCollectionAcceptance) :
    Confined R b (bindCollectionTx e t acceptance) := by
  refine (confined_of_ledger (keeps_ledger_casExecution (fun _ => by rfl) _ _)).bind fun _ =>
    Triple.guard <| Triple.bind ?_ fun _ => Triple.raiseIf_frame
  refine confined_casTask_of_fence he (fun _ => by rfl) fun row hc => ?_
  simp only [Bool.and_eq_true, beq_iff_eq] at hc
  exact hc.1.1

omit he

theorem confined_insertChildExecutionTx {root : ExecutionRow} (hroot : root.root = e)
    (acceptance : ScatterCollectionAcceptance) (member : ScatterMember) :
    Triple (fun s => Confines R b s ∧ s.identityOf e = some root.identity)
      (insertChildExecutionTx now e root acceptance member)
      fun _ s => Confines R b s ∧ s.identityOf e = some root.identity := by
  have wake (team : TeamId) (payload : OutboxPayload) (key : DedupeKey) :
      Triple (fun s => Confines R b s ∧ s.identityOf e = some root.identity) (enqueueTx now team payload key)
        fun _ s => Confines R b s ∧ s.identityOf e = some root.identity := by
    intro s a t hs ht
    refine ⟨confined_of_ledger (keeps_ledger_enqueueTx _ _ _ _) s a t hs.1 ht, ?_⟩
    rw [identityOf_eq (keeps_shape_enqueueTx _ _ _ _ s a t ht)]
    exact hs.2
  refine Triple.get_frame.bind fun _ => (Triple.modify (Q := fun _ s => Confines R b s ∧
    s.identityOf e = some root.identity) fun s hs => ?_).bind fun _ =>
      Triple.ite (fun _ => wake _ _ _) fun _ => Triple.keep
  obtain ⟨hs, hi⟩ := hs
  have old {k : ExecutionId} {j : ExecutionIdentity} (h : s.identityOf k = some j) :
      identityOf { s with executions := s.executions.insert (newScatterChild e root acceptance member) } k = some j :=
    identityOf_insert rfl h
  exact ⟨⟨wellFormed_insertChild hs.wellFormed hi hroot rfl rfl rfl rfl, fun k j hj => old (hs.known k j hj), hs.heads,
    hs.restarts, hs.fenced⟩, old hi⟩

include he

theorem confined_acceptCollectionTx (t : TaskId) (acceptance : ScatterCollectionAcceptance) :
    Confined R b (acceptCollectionTx d now e t acceptance) := by
  refine Triple.get_frame.bind fun _ => Triple.orRaise_frame.bind fun _ => Triple.guard <|
    Triple.guard <| Triple.guard <| Triple.ofExcept_frame.bind fun _ =>
      Triple.guard <| ?_
  have bound := (confined_bindCollectionTx he t acceptance).and (current_bindCollectionTx e t acceptance)
  refine (bound.pre fun s h => ⟨h, trivial⟩).bind fun _ => Triple.get.bind fun db => ?_
  refine (Triple.orRaise (Q := fun root s => root.root = e ∧ Confines R b s ∧ s.identityOf e = some root.identity)
    fun s root h hroot => ?_).bind fun root => Triple.intro fun hroot =>
      (Triple.forEach fun member _ => confined_insertChildExecutionTx now hroot acceptance member).post fun _ _ h => h.1
  obtain ⟨rfl, hs, head, hhead, hcurrent⟩ := h
  obtain ⟨j, hj, hjr, -⟩ := hs.wellFormed.current _ head hhead
  have hi := identityOf_of_get? hroot
  rw [hcurrent, hi] at hj
  obtain rfl := Option.some.inj hj
  exact ⟨hjr.trans hcurrent, hs, hi⟩

theorem confined_validateAndCommitTx (row : ExecutionRow) (commit : OutcomeCommit) :
    Confined R b (validateAndCommitTx d now e row commit) := by
  have wakes : Confined R b (do
      forEach commit.constructions fun construction => enqueueTx now row.team
        (.vectorizeConstruct e row.task construction) (.vectorizeConstruct e row.task construction)
      forEach commit.lifecycleWakes (enqueueExecutionWakeTx now row.team)) :=
    (Triple.forEach fun _ _ => confined_of_ledger (keeps_ledger_enqueueTx _ _ _ _)).bind fun _ =>
      Triple.forEach fun _ _ => confined_of_ledger (keeps_ledger_enqueueTx _ _ _ _)
  refine (confined_of_ledger (keeps_ledger_writeFactsTx commit.facts)).bind fun _ => ?_
  split
  · exact wakes
  · exact (confined_acceptSnapshotTx he _ _ _).bind fun _ => wakes
  · exact (confined_acceptCollectionTx d now he _ _).bind fun _ => wakes

theorem confined_succeedAndRouteTx (row : ExecutionRow) (p : ProcessRecord) (outcome : ProcessOutcome) :
    Confined R b (succeedAndRouteTx d now e row p outcome) := by
  refine (confined_of_ledger ((keeps_ledger_casProcess _ _ _).bind fun _ => Keeps.raiseIf _ _)).bind fun _ => ?_
  exact (confined_of_ledger (keeps_processWithExecution _)).bind fun _ =>
    confined_routeAfterTerminalProcessTx d now he _ _ _ _ _

theorem confined_acceptSuccessTx (row : ExecutionRow) (p : ProcessRecord) (outcome : ProcessOutcome) (task : TaskRow)
    (commit : Option OutcomeCommit) : Confined R b (acceptSuccessTx d now e row p outcome task commit) := by
  refine Triple.ite (fun _ => confined_failAndRouteTx d now he _ _ _ _ _ _) fun _ => ?_
  split
  · exact confined_succeedAndRouteTx d now he _ _ _
  · exact Triple.ofExcept_frame.bind fun _ => (confined_validateAndCommitTx d now he _ _).bind fun _ =>
      confined_succeedAndRouteTx d now he _ _ _

theorem confined_acceptRetryableTx (row : ExecutionRow) (p : ProcessRecord) (outcome : ProcessOutcome) (jitter : Nat) :
    Confined R b (acceptRetryableTx d now e row p outcome jitter) := by
  refine Triple.guard <| Triple.ite (fun _ => ?_) fun _ => confined_failAndRouteTx d now he _ _ _ _ _ _
  exact (confined_of_ledger ((keeps_ledger_casProcess _ _ _).bind fun _ => Keeps.raiseIf _ _)).bind fun _ =>
    (confined_of_ledger ((keeps_ledger_casExecution (fun _ => by rfl) _ _).bind fun _ => Keeps.pure _)).bind fun _ =>
      confined_of_ledger (keeps_ledger_enqueueTx _ _ _ _)

omit he

theorem confines_acceptOutcomeTx {s : Database} (hs : s.WellFormed) (outcome : ProcessOutcome)
    (commit : Option OutcomeCommit) (jitter : Nat)
    (h : ∀ p, s.processes.get? outcome.process = some p → s.Within R p.execution) :
    Triple (fun t => t = s) (acceptOutcomeTx d now outcome commit jitter) fun _ => Confines R s := by
  refine Triple.guard <| (Triple.processWithExecution (Q := fun r t => s.Within R r.1.execution ∧
    Confines R s t) fun t p row task ht hp _ _ => ?_).bind fun r => Triple.intro fun he => ?_
  · subst ht
    exact ⟨h p hp, .refl hs⟩
  refine Triple.ofExcept_frame.bind fun _ => Triple.ite
    (fun _ => Triple.guard <| Triple.keep) fun _ => ?_
  refine Triple.guard <| Triple.guard <| Triple.guard <| ?_
  have done {x : Tx Unit} (hx : Confined R s x) : Confined R s (do x; refreshExecutionCountsTx r.1.execution; pure true) :=
    hx.bind fun _ => (confined_refreshExecutionCountsTx he).bind fun _ => Triple.keep
  dsimp only
  split
  · exact done (confined_acceptSuccessTx d now he _ _ _ _ _)
  · exact done (confined_acceptRetryableTx d now he _ _ _ _)
  · exact done (Triple.guard <| confined_failAndRouteTx d now he _ _ _ _ _ _)
  · exact Triple.bind (Q := fun _ _ => False) Triple.throw fun _ _ _ _ h _ => h.elim

end outcomes

end KnowledgeBase
