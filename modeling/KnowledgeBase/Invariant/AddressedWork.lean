import KnowledgeBase.Invariant.Addressed

/-!
# The deliveries of the engine

Every delivery the engine writes is addressed: those of routes, outcomes, leases, claims and repairs, of the commands
on a Task, a gate and a Process, and the delivery that requeues a dead one.
-/

namespace KnowledgeBase

open Transaction Database

section routes

variable {W D : OutboxId → Prop} {b : Database} (d : Deployment) (now : Time) {e : ExecutionId}

/-! ### controls -/

theorem posting_failFalse (e : ExecutionId) (code message : String) :
    Posting W D b (do failExecutionIntegrityTx now e code message; pure false) :=
  posting_of_mail ((keeps_mail_failExecutionIntegrityTx now e code message).bind fun _ => Keeps.pure _)

theorem posting_wakeProcess {team : TeamId} {p : ProcessId} {key : DedupeKey} :
    Posting W D b (enqueueTx now team (.wakeProcess e p) key) :=
  posting_enqueueTx now (dated_of_ownerGeneration rfl)

theorem posting_insertProcessTx (process : ProcessRow) : Posting W D b (insertProcessTx now e process) :=
  Triple.get_frame.bind fun _ => (posting_of_mail (Keeps.modify fun _ => by rfl)).bind fun _ =>
    (posting_of_mail (keeps_mail_casExecution (fun _ => by rfl) _ _)).bind fun _ => Triple.guard <|
      posting_wakeProcess now

theorem posting_materializeProcessTx (plan : WorkflowDefinition) (row : ExecutionRow) (step : WorkflowStepDefinition)
    (key : RouteDecisionPayload) : Posting W D b (materializeProcessTx d now plan e row step key) := by
  refine Triple.get_frame.bind fun db => Triple.guard <| Triple.orRaise_frame.bind fun task =>
    Triple.ofExcept_frame.bind fun _ => Triple.ofExcept_frame.bind fun input => ?_
  refine Triple.ite (fun _ => Triple.keep) fun _ => ?_
  exact (posting_insertProcessTx now _).bind fun _ => Triple.keep

theorem keeps_mail_openGateTx (current : ExecutionRow) (gateKind : String) (key : RouteDecisionPayload)
    (evidence : ReviewEvidence) : Keeps mail (openGateTx e current gateKind key evidence) :=
  Keeps.get.bind fun _ => (Keeps.modify fun _ => by rfl).bind fun _ =>
    (keeps_mail_casExecution (fun _ => by rfl) _ _).bind fun _ => Keeps.raiseIf _ _

theorem keeps_mail_enterHumanReviewGateTx (step : WorkflowStepDefinition) (key : RouteDecisionPayload)
    (source : Option ProcessId) (context : RouteContext) :
    Keeps mail (enterHumanReviewGateTx now e step key source context) := by
  refine Keeps.get.bind fun db => Keeps.ite (Keeps.pure _) ((keeps_execution e).bind fun current =>
    Keeps.ite (Keeps.pure _) ?_)
  dsimp only
  split
  · exact (keeps_mail_failExecutionIntegrityTx now e _ _).bind fun _ => Keeps.pure _
  split
  · exact (keeps_mail_failExecutionIntegrityTx now e _ _).bind fun _ => Keeps.pure _
  · exact (keeps_mail_openGateTx _ _ _ _).bind fun _ => Keeps.pure _

theorem posting_releaseScatterChildrenTx (root : ExecutionId) (row : ExecutionRow) (changeSet : ChangeSetId) :
    Posting W D b (releaseScatterChildrenTx now root row changeSet) := by
  refine posting_get fun s => Triple.forEach fun child hchild => ?_
  have hget : s.executions.get? child.1 = some child.2 := (Table.mem_select.1 hchild).1
  refine (posting_of_mail (keeps_mail_casExecution (fun _ => by rfl) _ _)).bind fun _ =>
    Triple.ite (fun _ => posting_enqueueTx now ?_) fun _ => Triple.keep
  intro k hk
  obtain rfl := OutboxOwner.execution.inj hk
  exact .inr ⟨child.2.identity, identityOf_of_get? hget, rfl⟩

theorem posting_enterScatterChildrenJoinTx (key : RouteDecisionPayload) (source : Option ProcessId) :
    Posting W D b (enterScatterChildrenJoinTx now e key source) := by
  refine posting_execution fun current => Triple.get_frame.bind fun db => Triple.ite (fun _ => Triple.keep)
    fun _ => ?_
  have fail := posting_failFalse (W := W) (D := D) (b := b) now e
  split
  · exact fail _ _
  split
  · exact fail _ _
  · split
    · exact fail _ _
    · exact posting_of_mail ((keeps_mail_terminalizeExecutionTx now e _ _ _ _ _).bind fun _ => Keeps.pure _)
  · exact (posting_releaseScatterChildrenTx now _ _ _).bind fun _ => posting_of_mail
      ((keeps_mail_casExecution (fun _ => by rfl) _ _).bind fun _ => (keeps_mail_refreshExecutionCountsTx e).bind
        fun _ => Keeps.pure _)

/-! ### the routes of a decision -/

/-- Routes whose deliveries are addressed. -/
def PostingRoutes (W D : OutboxId → Prop) (apply : ApplyRoutes) : Prop :=
  ∀ (b : Database) (e : ExecutionId) (row : ExecutionRow) (decision : RouteDecision) (source : Option ProcessRecord)
    (context : RouteContext) (error : Option String), Posting W D b (apply e row decision source context error)

variable (plan : WorkflowDefinition) {apply : ApplyRoutes} (ha : PostingRoutes W D apply)

include ha

theorem posting_enterSelectedOutputWith (step : WorkflowStepDefinition) (key : RouteDecisionPayload) :
    Posting W D b (enterSelectedOutputWith now plan apply e step key) := by
  refine posting_execution fun current => Triple.get_frame.bind fun db => Triple.ite (fun _ => Triple.keep)
    fun _ => ?_
  have fail := posting_failFalse (W := W) (D := D) (b := b) now e
  split
  · exact fail _ _
  split
  · exact fail _ _
  · refine (posting_of_mail (Keeps.modify fun s => by split <;> rfl)).bind fun _ => Triple.get_frame.bind fun _ =>
      Triple.ite (fun _ => ?_) fun _ => fail _ _
    exact Triple.ofExcept_frame.bind fun decision => ha b e _ _ _ _ _
  · exact fail _ _

theorem posting_applyRoutesWith : PostingRoutes W D (applyRoutesWith d now plan apply) := by
  intro b e row decision source context error
  have fail := posting_failFalse (W := W) (D := D) (b := b) now e
  refine Triple.ite (fun _ => fail _ _) fun _ => Triple.anyEach fun route _ => ?_
  unfold applyRouteWith
  split
  · exact fail _ _
  · split
    · exact posting_of_mail ((keeps_mail_terminalizeExecutionTx now e _ _ _ _ _).bind fun _ => Keeps.pure _)
    · exact posting_materializeProcessTx d now plan _ _ _
    · unfold enterControlWith
      refine Triple.ite (fun _ => posting_enterScatterChildrenJoinTx now _ _) fun _ => ?_
      refine Triple.ite (fun _ => posting_enterSelectedOutputWith now plan ha _ _) fun _ => ?_
      exact Triple.ite (fun _ => posting_of_mail (keeps_mail_enterHumanReviewGateTx now _ _ _ _)) fun _ => Triple.throw
    · exact fail _ _

omit ha

theorem posting_applyRoutesTx : PostingRoutes W D (applyRoutesTx d now plan) := by
  unfold applyRoutesTx
  generalize plan.steps.length = depth
  induction depth with
  | zero => exact posting_applyRoutesWith d now plan fun _ _ _ _ _ _ _ => Triple.throw
  | succ depth ih => exact posting_applyRoutesWith d now plan ih

/-! ### routing after a terminal Process -/

theorem keeps_mail_sealCleanRouteTx (row : ExecutionRow) (decision : RouteDecision) (intent : Option RequestIntent) :
    Keeps mail (sealCleanRouteTx e row plan decision intent) := by
  unfold sealCleanRouteTx
  split
  · exact Keeps.pure _
  · refine Keeps.ite (Keeps.pure _) (Keeps.guard <| (Keeps.ofExcept _).bind fun _ => ?_)
    refine Keeps.ite (Keeps.guard <| keeps_execution _) (Keeps.bind ?_ fun _ => keeps_execution _)
    exact Keeps.get.bind fun _ => (Keeps.orRaise _ _).bind fun _ =>
      (keeps_mail_casExecution (fun _ => by rfl) _ _).bind fun _ => Keeps.raiseIf _ _

theorem posting_routeAfterTerminalProcessTx (row : ExecutionRow) (process : ProcessRecord)
    (selector : WorkflowOutcomeSelector) (extra : OutcomeExtra) (terminalError : Option String) :
    Posting W D b (routeAfterTerminalProcessTx d now e row process selector extra terminalError) :=
  Triple.ofExcept_frame.bind fun plan => Triple.get_frame.bind fun _ => Triple.ofExcept_frame.bind fun decision =>
    (posting_of_mail (keeps_mail_sealCleanRouteTx plan row decision _)).bind fun _ =>
      (posting_applyRoutesTx d now plan b e _ _ _ _ _).bind fun _ => Triple.keep

theorem keeps_mail_failProcessTx (p : ProcessRecord) (errorCode failureDisposition : String)
    (acceptedOutcome : Option OutcomeContent) :
    Keeps mail (failProcessTx now p errorCode failureDisposition acceptedOutcome) := by
  refine (keeps_mail_casProcess _ _ _).bind fun _ => Keeps.ite (Keeps.pure _) (Keeps.get.bind fun db => ?_)
  split
  · exact Keeps.pure _
  · exact Keeps.raiseIf _ _

theorem posting_failAndRouteTx (row : ExecutionRow) (p : ProcessRecord) (errorCode failureDisposition : String)
    (acceptedOutcome : Option OutcomeContent) (extra : OutcomeExtra) :
    Posting W D b (failAndRouteTx d now e row p errorCode failureDisposition acceptedOutcome extra) :=
  (posting_of_mail (keeps_mail_failProcessTx now p _ _ _)).bind fun _ =>
    posting_routeAfterTerminalProcessTx d now _ _ _ _ _

end routes

/-! ### outcomes -/

section outcomes

variable {W D : OutboxId → Prop} {b : Database} (d : Deployment) (now : Time) (e : ExecutionId)

theorem keeps_mail_acceptSnapshotTx (t : TaskId) (snapshot : SnapshotId) (changeSet : ChangeSetId) :
    Keeps mail (acceptSnapshotTx e t snapshot changeSet) :=
  (keeps_mail_casExecution (fun _ => by rfl) _ _).bind fun _ => Keeps.guard <|
    (keeps_mail_casTask _ _ _).bind fun _ => Keeps.raiseIf _ _

theorem keeps_mail_bindCollectionTx (t : TaskId) (acceptance : ScatterCollectionAcceptance) :
    Keeps mail (bindCollectionTx e t acceptance) :=
  (keeps_mail_casExecution (fun _ => by rfl) _ _).bind fun _ => Keeps.guard <|
    (keeps_mail_casTask _ _ _).bind fun _ => Keeps.raiseIf _ _

theorem posting_insertChildExecutionTx (root : ExecutionRow) (acceptance : ScatterCollectionAcceptance)
    (member : ScatterMember) : Posting W D b (insertChildExecutionTx now e root acceptance member) := by
  refine Triple.get.bind fun db => (Triple.modify (Q := fun _ t => Posts W D b t ∧
    (OutboxPayload.wakeExecution db.executions.next (some root.task) (some root.generation)).Dated t) fun s hs => ?_).bind
      fun _ => posting_rebase fun s hdated => Triple.ite (fun _ => posting_enqueueTx now hdated) fun _ =>
        Triple.keep
  obtain ⟨rfl, hs⟩ := hs
  exact ⟨hs.insertExecution rfl rfl, dated_insertExecution (newScatterChild e root acceptance member) rfl _⟩

theorem posting_acceptCollectionTx (t : TaskId) (acceptance : ScatterCollectionAcceptance) :
    Posting W D b (acceptCollectionTx d now e t acceptance) :=
  Triple.get_frame.bind fun _ => Triple.orRaise_frame.bind fun _ => Triple.guard <|
    Triple.guard <| Triple.guard <| Triple.ofExcept_frame.bind fun _ =>
      Triple.guard <| (posting_of_mail (keeps_mail_bindCollectionTx e t acceptance)).bind fun _ =>
        Triple.get_frame.bind fun _ => Triple.orRaise_frame.bind fun root => Triple.forEach fun member _ =>
          posting_insertChildExecutionTx now e root acceptance member

theorem posting_validateAndCommitTx (row : ExecutionRow) (commit : OutcomeCommit) :
    Posting W D b (validateAndCommitTx d now e row commit) := by
  have wakes : Posting W D b (do
      forEach commit.constructions fun construction => enqueueTx now row.team
        (.vectorizeConstruct e row.task construction) (.vectorizeConstruct e row.task construction)
      forEach commit.lifecycleWakes (enqueueExecutionWakeTx now row.team)) :=
    (Triple.forEach fun _ _ => posting_enqueueTx now (dated_of_ownerGeneration rfl)).bind fun _ =>
      Triple.forEach fun _ _ => posting_enqueueTx now (dated_of_ownerGeneration rfl)
  refine (posting_of_mail (keeps_mail_writeFactsTx commit.facts)).bind fun _ => ?_
  split
  · exact wakes
  · exact (posting_of_mail (keeps_mail_acceptSnapshotTx e _ _ _)).bind fun _ => wakes
  · exact (posting_acceptCollectionTx d now e _ _).bind fun _ => wakes

theorem posting_succeedAndRouteTx (row : ExecutionRow) (p : ProcessRecord) (outcome : ProcessOutcome) :
    Posting W D b (succeedAndRouteTx d now e row p outcome) := by
  refine (posting_of_mail ((keeps_mail_casProcess _ _ _).bind fun _ => Keeps.raiseIf _ _)).bind fun _ => ?_
  exact (posting_of_mail (keeps_processWithExecution _)).bind fun _ => posting_routeAfterTerminalProcessTx d now _ _ _ _ _

theorem posting_acceptSuccessTx (row : ExecutionRow) (p : ProcessRecord) (outcome : ProcessOutcome) (task : TaskRow)
    (commit : Option OutcomeCommit) : Posting W D b (acceptSuccessTx d now e row p outcome task commit) := by
  refine Triple.ite (fun _ => posting_failAndRouteTx d now _ _ _ _ _ _) fun _ => ?_
  split
  · exact posting_succeedAndRouteTx d now e _ _ _
  · exact Triple.ofExcept_frame.bind fun _ => (posting_validateAndCommitTx d now e _ _).bind fun _ =>
      posting_succeedAndRouteTx d now e _ _ _

theorem posting_acceptRetryableTx (row : ExecutionRow) (p : ProcessRecord) (outcome : ProcessOutcome) (jitter : Nat) :
    Posting W D b (acceptRetryableTx d now e row p outcome jitter) := by
  refine Triple.guard <| Triple.ite (fun _ => ?_) fun _ => posting_failAndRouteTx d now _ _ _ _ _ _
  exact (posting_of_mail ((keeps_mail_casProcess _ _ _).bind fun _ => Keeps.raiseIf _ _)).bind fun _ =>
    (posting_of_mail ((keeps_mail_casExecution (fun _ => by rfl) _ _).bind fun _ => Keeps.pure _)).bind fun _ =>
      posting_wakeProcess now

theorem posting_acceptOutcomeTx (outcome : ProcessOutcome) (commit : Option OutcomeCommit) (jitter : Nat) :
    Posting W D b (acceptOutcomeTx d now outcome commit jitter) := by
  refine Triple.guard <| (posting_of_mail (keeps_processWithExecution _)).bind fun r => ?_
  refine Triple.ofExcept_frame.bind fun _ => Triple.ite
    (fun _ => Triple.guard <| Triple.keep) fun _ => ?_
  refine Triple.guard <| Triple.guard <| Triple.guard <| ?_
  have done {x : Tx Unit} (hx : Posting W D b x) : Posting W D b (do x; refreshExecutionCountsTx r.1.execution; pure true) :=
    hx.bind fun _ => posting_of_mail ((keeps_mail_refreshExecutionCountsTx _).bind fun _ => Keeps.pure _)
  dsimp only
  split
  · exact done (posting_acceptSuccessTx d now _ _ _ _ _ _)
  · exact done (posting_acceptRetryableTx d now _ _ _ _ _)
  · exact done (Triple.guard <| posting_failAndRouteTx d now _ _ _ _ _ _)
  · exact Triple.bind (Q := fun _ _ => False) Triple.throw fun _ _ _ _ h _ => h.elim

end outcomes

section work

variable {W D : OutboxId → Prop} {b : Database} (d : Deployment) (now : Time)

/-! ### leases, retries and claims -/

theorem posting_promoteDueRetriesTx (limit : Nat) : Posting W D b (promoteDueRetriesTx now limit) :=
  Triple.get_frame.bind fun _ => Triple.sumEach fun p _ => (posting_of_mail (keeps_mail_casProcess _ _ _)).bind fun _ =>
    Triple.ite (fun _ => (posting_of_mail (keeps_mail_casExecution (fun _ => by rfl) _ _)).bind fun _ =>
      (posting_wakeProcess now).bind fun _ => Triple.keep) fun _ => Triple.keep

theorem posting_recoverLeaseTx (p : ProcessRecord) : Posting W D b (recoverLeaseTx d now p) := by
  refine posting_execution fun row => Triple.ite (fun _ => ?_) fun _ => Triple.ite (fun _ => ?_) fun _ =>
    Triple.ite (fun _ => ?_) fun _ => ?_
  · exact posting_of_mail ((keeps_mail_casProcess _ _ _).bind fun _ => (keeps_mail_convergeCancellationTx now _).bind
      fun _ => Keeps.pure _)
  · exact (posting_failAndRouteTx d now _ _ _ _ _ _).bind fun _ => Triple.keep
  · exact (posting_failAndRouteTx d now _ _ _ _ _ _).bind fun _ => Triple.keep
  · exact (posting_of_mail (keeps_mail_casProcess _ _ _)).bind fun _ => Triple.ite
      (fun _ => (posting_wakeProcess now).bind fun _ => Triple.keep) fun _ => Triple.keep

theorem posting_recoverExpiredLeasesTx (limit : Nat) : Posting W D b (recoverExpiredLeasesTx d now limit) :=
  Triple.get_frame.bind fun _ => (Triple.sumEach fun p _ => posting_recoverLeaseTx d now p).bind fun _ =>
    (Triple.forEach fun _ _ => posting_of_mail (keeps_mail_refreshExecutionCountsTx _)).bind fun _ =>
      Triple.keep

theorem posting_failExpiredReadyTx (p : ProcessRecord) : Posting W D b (failExpiredReadyTx d now p) :=
  posting_execution fun _ => Triple.ofExcept_frame.bind fun _ =>
    (posting_of_mail (keeps_mail_failProcessTx now p _ _ _)).bind fun _ => posting_execution fun _ =>
      (posting_routeAfterTerminalProcessTx d now _ _ _ _ _).bind fun _ =>
        posting_of_mail (keeps_mail_refreshExecutionCountsTx _)

theorem keeps_mail_admitWaitingProcessesTx : Keeps mail (admitWaitingProcessesTx d now) :=
  fun s a t h => Triple.admitWaitingProcessesTx (P := fun u => u.mail = s.mail) (fun _ hu => hu)
    (fun p _ u c v hu hv => (keeps_mail_casProcess p _ _ u c v hv).trans hu) s a t rfl h

theorem keeps_mail_claimCandidateTx (request : ClaimRequest) (c : ProcessRecord) :
    Keeps mail (claimCandidateTx now request c) :=
  (keeps_mail_casProcess _ _ _).bind fun _ => Keeps.ite ((keeps_processWithExecution _).bind fun _ =>
    (Keeps.ofExcept _).bind fun _ => Keeps.pure _) (Keeps.pure _)

theorem posting_claimLoopTx (request : ClaimRequest) (rounds : Nat) : Posting W D b (claimLoopTx d now request rounds) := by
  induction rounds with
  | zero => exact Triple.keep
  | succ rounds ih =>
    refine Triple.get_frame.bind fun db => ?_
    split
    · exact (posting_failExpiredReadyTx d now _).bind fun _ => ih
    refine (posting_of_mail (keeps_mail_admitWaitingProcessesTx d now)).bind fun _ => Triple.get_frame.bind fun db => ?_
    split
    · exact Triple.keep
    refine posting_execution fun row => Triple.ofExcept_frame.bind fun plan =>
      Triple.ofExcept_frame.bind fun _ => Triple.ite (fun _ => ?_) fun _ => ?_
    · exact (posting_failExpiredReadyTx d now _).bind fun _ => ih
    · refine (posting_of_mail (keeps_mail_claimCandidateTx now request _)).bind fun claimed => ?_
      split
      · exact Triple.keep
      · exact ih

theorem posting_claimNextTx (request : ClaimRequest) : Posting W D b (claimNextTx d now request) :=
  Triple.guard <| Triple.guard <|
    Triple.ite (fun _ => Triple.keep) fun _ => posting_claimLoopTx d now request 64

theorem keeps_mail_markRunningTx (p : ProcessId) (fence : Nat) : Keeps mail (markRunningTx now p fence) := by
  refine (keeps_processWithExecution p).bind fun r => Keeps.ite (Keeps.pure _) ((keeps_mail_casProcess _ _ _).bind
    fun _ => Keeps.guard <| (keeps_execution _).bind fun row =>
      (keeps_mail_casExecution (fun _ => by rfl) _ _).bind fun _ => ?_)
  split
  · exact (keeps_mail_projectTaskStatusTx now _ _).bind fun _ => Keeps.pure _
  · exact Keeps.pure _

/-! ### wakes, cancellations and decisions -/

variable (e : ExecutionId)

theorem keeps_mail_requestCancellationTx : Keeps mail (requestCancellationTx now e) :=
  (keeps_execution e).bind fun _ => Keeps.ite (Keeps.pure _) ((keeps_execution _).bind fun _ =>
    (keeps_mail_cancelExecutionTreeTx now _ true).bind fun _ => (keeps_mail_refreshExecutionCountsTx _).bind fun _ =>
      Keeps.pure _)

theorem keeps_mail_stopExecutionTx (c : OperatorCommand) : Keeps mail (stopExecutionTx now e c) :=
  Keeps.guard <| Keeps.get.bind fun _ => Keeps.ite (Keeps.pure _) ((Keeps.orRaise _ _).bind fun _ =>
    Keeps.guard <| Keeps.guard <| (keeps_execution _).bind fun _ =>
      (keeps_mail_cancelExecutionTreeTx now _ true).bind fun _ => (Keeps.modify fun _ => by rfl).bind fun _ =>
        Keeps.pure _)

theorem posting_materializeRootTx : Posting W D b (materializeRootTx d now e) := by
  refine posting_execution fun row => Triple.ite (fun _ => Triple.keep) fun _ =>
    Triple.ite (fun _ => ?_) fun _ => Triple.ite (fun _ => Triple.ite (fun _ => ?_) fun _ => Triple.keep)
      fun _ => Triple.get_frame.bind fun db => Triple.ofExcept_frame.bind fun r => ?_
  · exact posting_of_mail ((keeps_mail_convergeCancellationTx now e).bind fun _ => Keeps.pure _)
  · exact posting_of_mail ((keeps_mail_maybeConvergeScatterRootTx now e).bind fun _ =>
      (keeps_mail_refreshExecutionCountsTx e).bind fun _ => Keeps.pure _)
  have fail := posting_failFalse (W := W) (D := D) (b := b) now e
  refine Triple.ite (fun _ => fail _ _) fun _ => Triple.ofExcept_frame.bind fun decision =>
    Triple.ite (fun _ => fail _ _) fun _ => ?_
  exact (posting_applyRoutesTx d now r.1 b e _ _ _ _ _).bind fun _ =>
    posting_of_mail ((keeps_mail_refreshExecutionCountsTx e).bind fun _ => Keeps.pure _)

theorem posting_consumeGateDecisionTx (decision : DecisionId) : Posting W D b (consumeGateDecisionTx d now decision) := by
  refine Triple.get_frame.bind fun db => Triple.orRaise_frame.bind fun r => Triple.guard <|
    Triple.guard <| Triple.guard <| posting_execution fun row =>
      Triple.ite (fun _ => Triple.keep) fun _ => Triple.ite (fun _ => Triple.keep) fun _ => ?_
  have resume : Keeps mail (resumeFromGateTx r.2.execution r.1.gate row) :=
    Keeps.ite (Keeps.pure _) ((keeps_mail_casExecution (fun _ => by rfl) _ _).bind fun _ =>
      Keeps.guard <| keeps_execution _)
  have review (action : GateAction) (row : ExecutionRow) :
      Keeps mail (modify (applyHumanReviewItemLifecycle now action row) : Tx PUnit) :=
    Keeps.modify fun s => by
      unfold applyHumanReviewItemLifecycle
      split <;> rfl
  exact (posting_of_mail resume).bind fun row => Triple.get_frame.bind fun db => Triple.ofExcept_frame.bind fun q =>
    (posting_of_mail (review _ row)).bind fun _ => (posting_applyRoutesTx d now q.1 b _ _ _ _ _ _).bind fun _ =>
      posting_of_mail ((keeps_mail_refreshExecutionCountsTx _).bind fun _ => Keeps.pure _)

/-! ### deliveries -/

theorem posting_handleDeliveryTx (o : OutboxId) (valid : Bool) : Posting W D b (handleDeliveryTx d now o valid) := by
  refine Triple.get_frame.bind fun db => ?_
  split
  · exact Triple.keep
  split
  · exact (posting_materializeRootTx d now _).bind fun _ => Triple.keep
  · exact Triple.keep
  · exact posting_of_mail ((keeps_mail_requestCancellationTx now _).bind fun _ => Keeps.pure _)
  · exact (posting_consumeGateDecisionTx d now _).bind fun _ => Triple.keep
  · exact Triple.raiseIf_frame

/-- A lease, a completion and a release leave the address of the delivery alone, and only the last may kill it. -/
theorem posting_leaseOutboxRowTx (hW : ∀ o, W o) (token leaseSeconds : Nat) :
    Posting W D b (leaseOutboxRowTx now token leaseSeconds) := by
  refine Triple.get_frame.bind fun db => ?_
  split
  · exact Triple.keep
  · refine (posting_casOutbox (fun s row h => ?_) (hW _) fun row h => ?_).bind fun _ => Triple.keep
    · exact ⟨h.owner, h.ownerGeneration, h.critical, h.deadErrorCode, h.dated⟩
    · cases h

theorem posting_completeOutboxTx {o : OutboxId} (hW : W o) (token : Nat) :
    Posting W D b (completeOutboxTx o token) := by
  refine (posting_casOutbox (fun s row h => ?_) hW fun row h => ?_).bind fun _ => Triple.keep
  · exact ⟨h.owner, h.ownerGeneration, h.critical, h.deadErrorCode, h.dated⟩
  · cases h

theorem keeps_mail_recordOutboxDeadTx (row : OutboxRow) (error : String) :
    Keeps mail (recordOutboxDeadTx now row error) := by
  refine Keeps.get.bind fun db => ?_
  split
  · exact Keeps.pure _
  · exact (keeps_mail_casExecution (fun _ => by rfl) _ _).bind fun _ => keeps_mail_projectRootTaskTx now _ _ _ _ _ _ _

theorem posting_releaseOutboxTx {o : OutboxId} (hW : W o) (ho : D o) (token : Nat) (error : String) :
    Posting W D b (releaseOutboxTx now o token error) := by
  refine Triple.get_frame.bind fun db => ?_
  split
  · exact Triple.keep
  · refine (posting_casOutbox (fun s row h => ?_) hW fun _ _ => .inl ho).bind fun _ => Triple.ite
      (fun _ => posting_of_mail (keeps_mail_recordOutboxDeadTx now _ _)) fun _ => Triple.keep
    exact ⟨h.owner, h.ownerGeneration, h.critical, h.deadErrorCode, h.dated⟩

theorem posting_requeueDeadOutboxTx (o : OutboxId) (expectedGeneration idempotencyKey : Nat) :
    Posting W D b (requeueDeadOutboxTx now o expectedGeneration idempotencyKey) := by
  refine Triple.get.bind fun db => (Triple.orRaise (Q := fun row s => row.Addressed db ∧ db = s ∧ Posts W D b s)
    fun s row hs hrow => ?_).bind fun row => Triple.intro fun hrow => Triple.guard <|
      Triple.guard <| ?_
  · obtain ⟨rfl, hs⟩ := hs
    exact ⟨hs.addressed o row hrow, rfl, hs⟩
  split
  · exact Triple.pure fun _ h => h.2
  · refine Triple.guard <| (Triple.set (Q := fun _ => Posts W D b) fun s hs => ?_).bind fun _ =>
      Triple.keep
    obtain ⟨rfl, hs⟩ := hs
    refine (hs.insert ?_ ?_).of_outbox (fun _ _ h => h) rfl
    · exact ⟨hrow.owner, hrow.ownerGeneration, hrow.critical, hrow.deadErrorCode, hrow.dated⟩
    · exact ⟨rfl, rfl⟩

/-! ### repairs -/

theorem posting_enqueueMissingTx {team : TeamId} {payload : OutboxPayload} {key : DedupeKey} (h : payload.Dated b) :
    Posting W D b (enqueueMissingTx now team payload key) :=
  Triple.get_frame.bind fun _ => Triple.ite (fun _ => Triple.keep) fun _ =>
    (posting_enqueueTx now h).bind fun _ => Triple.keep

theorem posting_repairGateDecisionTx (r : DecisionId × DecisionRow) : Posting W D b (repairGateDecisionTx now r) :=
  Triple.get_frame.bind fun _ => Triple.ite (fun _ => Triple.keep) fun _ =>
    (posting_enqueueTx now (dated_of_ownerGeneration rfl)).bind fun _ => Triple.keep

theorem posting_repairTerminalProcessTransitionTx (row : ExecutionRow) (p : ProcessId) :
    Posting W D b (repairTerminalProcessTransitionTx d now e row p) := by
  refine (posting_of_mail (keeps_processWithExecution p)).bind fun r => Triple.ofExcept_frame.bind fun plan =>
    Triple.ite (fun _ => ?_) fun _ => ?_
  · exact posting_of_mail ((keeps_mail_failExecutionIntegrityTx now e _ _).bind fun _ => Keeps.pure _)
  · exact Triple.ofExcept_frame.bind fun decision => (posting_applyRoutesTx d now plan b e _ _ _ _ _).bind fun _ =>
      Triple.keep

theorem keeps_mail_repairWaitTx (row : ExecutionRow) : Keeps mail (repairWaitTx now e row) := by
  have fail (code message : String) : Keeps mail (do failExecutionIntegrityTx now e code message; pure 1) :=
    (keeps_mail_failExecutionIntegrityTx now e code message).bind fun _ => Keeps.pure _
  have prerequisite (parent : Option ExecutionRow) : Keeps mail (repairPrerequisiteTx now e row parent) := by
    refine Keeps.ite ?_ (fail _ _)
    split
    · exact Keeps.ite ((keeps_mail_cancelExecutionTreeTx now _ false).bind fun _ => Keeps.pure _) (Keeps.pure _)
    · exact Keeps.pure _
  unfold repairWaitTx
  split
  · exact (keeps_mail_maybeConvergeScatterRootTx now e).bind fun _ => Keeps.pure _
  · split
    · exact (keeps_execution _).bind fun _ => (Keeps.pure _).bind fun parent => prerequisite parent
    · exact (Keeps.pure _).bind fun parent => prerequisite parent
  · exact Keeps.get.bind fun _ => Keeps.ite (Keeps.pure _) (fail _ _)
  · exact Keeps.get.bind fun _ => Keeps.ite (Keeps.pure _) (fail _ _)
  · exact fail _ _

theorem posting_evaluateCleanupEligibilityTx (limit : Nat) : Posting W D b (evaluateCleanupEligibilityTx d now limit) :=
  Triple.get_frame.bind fun _ => Triple.sumEach fun _ _ =>
    posting_of_mail ((keeps_mail_casProcess _ _ _).bind fun _ => Keeps.pure _)

theorem posting_repairWakeExecutionTx {r : ExecutionId × ExecutionRow} (h : b.executions.get? r.1 = some r.2) :
    Posting W D b (repairWakeExecutionTx now r) := by
  refine posting_enqueueMissingTx now fun k hk => ?_
  obtain rfl := OutboxOwner.execution.inj hk
  exact .inr ⟨r.2.identity, identityOf_of_get? h, rfl⟩

theorem posting_repairScanTx : Posting W D b (repairScanTx d now) := by
  have project : Keeps mail (repairTerminalProjectionsTx now) := by
    refine Keeps.get.bind fun _ => Keeps.sumEach fun r => (keeps_mail_refreshExecutionCountsTx _).bind fun _ => ?_
    exact (keeps_mail_casExecution (fun _ => by rfl) _ _).bind fun _ => (keeps_mail_projectTaskStatusTx now _ _).bind
      fun _ => Keeps.pure _
  refine Triple.get_frame.bind fun _ => (Triple.sumEach fun r _ => posting_repairGateDecisionTx now r).bind fun _ =>
    Triple.get_frame.bind fun _ => (Triple.sumEach fun e _ => posting_of_mail
      ((keeps_mail_cancelExecutionTreeTx now e true))).bind fun _ =>
    Triple.get_frame.bind fun _ => (Triple.sumEach fun _ _ => posting_enqueueMissingTx now
      (dated_of_ownerGeneration rfl)).bind fun _ => posting_get fun s => ?_
  refine (Triple.sumEach fun r hr => posting_repairWakeExecutionTx now (Table.mem_select.1 hr).1).bind fun _ =>
    Triple.get_frame.bind fun _ => (Triple.sumEach fun r _ =>
      posting_repairTerminalProcessTransitionTx d now r.1 r.2.1 r.2.2).bind fun _ =>
    Triple.get_frame.bind fun _ => (Triple.sumEach fun r _ => posting_of_mail
      (keeps_mail_repairWaitTx now r.1 r.2)).bind fun _ =>
    (posting_of_mail project).bind fun _ => (posting_evaluateCleanupEligibilityTx d now 256).bind fun _ =>
      Triple.keep

end work

/-! ### commands -/

section commands

variable {W D : OutboxId → Prop} {b : Database} (d : Deployment) (now : Time)

theorem posting_createTaskTx (request : TaskCreateRequest) : Posting W D b (createTaskTx d now request) := by
  refine Triple.ofExcept_frame.bind fun _ => Triple.guard <| Triple.get.bind fun db =>
    (Triple.set (Q := fun _ s => Posts W D b s ∧
      (OutboxPayload.wakeExecution db.executions.next (some db.tasks.next) (some 1)).Dated s) fun s hs => ?_).bind
        fun _ => posting_rebase fun s hdated => (posting_enqueueTx now hdated).bind fun _ => Triple.keep
  obtain ⟨rfl, hs⟩ := hs
  exact ⟨hs.insertExecution rfl rfl, dated_insertExecution (request.rootRow _ _) rfl _⟩

theorem posting_retryTaskTx (t : TaskId) (expectedRevision reason : Nat) :
    Posting W D b (retryTaskTx d now t expectedRevision reason) := by
  refine (posting_of_mail (keeps_visibleTask t)).bind fun task => Triple.get.bind fun db => Triple.ite
    (fun _ => Triple.pure fun _ h => h.2) fun _ => ?_
  refine Triple.guard <| Triple.guard <| Triple.guard <|
    Triple.ofExcept_frame.bind fun _ => Triple.orRaise_frame.bind fun previous => Triple.guard <|
      Triple.guard <| Triple.guard <| Triple.guard <| ?_
  refine (Triple.set (Q := fun _ s => Posts W D b s ∧ (OutboxPayload.wakeExecution db.executions.next (some t)
    (some (task.currentGeneration + 1))).Dated s) fun s hs => ?_).bind fun _ => posting_rebase fun s hdated =>
      (posting_of_mail (keeps_mail_casTask _ _ _)).bind fun _ => (posting_enqueueTx now hdated).bind fun _ =>
        Triple.keep
  obtain ⟨rfl, hs⟩ := hs
  exact ⟨hs.insertExecution rfl rfl,
    dated_insertExecution (retryRoot _ (task.currentGeneration + 1) previous) rfl _⟩

theorem keeps_mail_patchTaskTx (t : TaskId) (expectedRevision : Nat) (priority : Option TaskPriority) :
    Keeps mail (patchTaskTx d t expectedRevision priority) := by
  refine (keeps_visibleTask t).bind fun task => Keeps.guard <| ?_
  have write : Keeps mail (do
      let _ ← casTask t (·.rowRevision == expectedRevision) fun row =>
        { row with
          priority := priority.getD row.priority
          rowRevision := row.rowRevision + 1 }) := (keeps_mail_casTask _ _ _).bind fun _ => Keeps.pure _
  split
  · exact Keeps.guard <| Keeps.get.bind fun _ => Keeps.guard <|
      (Keeps.ofExcept _).bind fun _ => write
  · exact write

theorem keeps_mail_softDeleteTaskTx (t : TaskId) (expectedRevision : Nat) :
    Keeps mail (softDeleteTaskTx t expectedRevision) :=
  Keeps.get.bind fun _ => (Keeps.orRaise _ _).bind fun _ => Keeps.guard <| (Keeps.raiseIf _ _).bind
    fun _ => Keeps.ite (Keeps.pure _) ((keeps_mail_casTask _ _ _).bind fun _ => Keeps.pure _)

theorem posting_cancelTaskTx (t : TaskId) (expectedRevision : Nat) :
    Posting W D b (cancelTaskTx now t expectedRevision) := by
  have tree (root : ExecutionId) : Keeps mail (modify (cancelTree now root) : Tx PUnit) :=
    Keeps.modify fun s => Prod.ext (funext fun e => identityOf_eq (shape_cancelTree now root s) e) rfl
  exact (posting_of_mail (keeps_visibleTask t)).bind fun task => Triple.guard <|
    Triple.ite (fun _ => Triple.keep) fun _ => (posting_of_mail (keeps_mail_casTask _ _ _)).bind fun _ =>
      Triple.guard <| (posting_of_mail (tree _)).bind fun _ =>
        (posting_enqueueTx now (dated_of_ownerGeneration rfl)).bind fun _ => Triple.keep

theorem posting_decideGateTx (request : GateDecisionRequest) : Posting W D b (decideGateTx d now request) := by
  have gates (g : GateId) (c : GateRow → Bool) (u : GateRow → GateRow) : Keeps mail (casGate g c u) :=
    keeps_compareAndSet fun _ => by rfl
  refine Triple.get_frame.bind fun db => Triple.orRaise_frame.bind fun task => Triple.orRaise_frame.bind fun gate => ?_
  split
  · exact Triple.guard <| Triple.keep
  · refine Triple.ite_bind Triple.ofExcept_frame <| Triple.guard <| Triple.guard <| Triple.guard <|
      Triple.guard <| Triple.guard <| (posting_of_mail (Keeps.modify fun _ => by rfl)).bind fun _ =>
        (posting_of_mail (gates _ _ _)).bind fun _ =>
          Triple.guard <| (posting_enqueueTx now fun e he => ?_).bind fun _ => Triple.keep
    cases he

theorem posting_restartProcessTx (p : ProcessId) (c : OperatorCommand) : Posting W D b (restartProcessTx now p c) :=
  Triple.get_frame.bind fun _ => Triple.ite (fun _ => Triple.keep) fun _ => Triple.orRaise_frame.bind
    fun _ => Triple.guard <| Triple.guard <|
      (posting_of_mail (keeps_mail_casProcess _ _ _)).bind fun _ => Triple.guard <|
        (posting_wakeProcess now).bind fun _ => posting_of_mail ((Keeps.modify fun _ => by rfl).bind fun _ =>
          Keeps.pure _)

theorem keeps_mail_applyLifecycleTx (item : ItemId) (action : LifecycleAction) (expectedRevision : Option Nat) :
    Keeps mail (applyLifecycleTx now item action expectedRevision) :=
  keeps_applyLifecycleTx_of_frame (fun _ _ => by rfl) now item action expectedRevision

end commands

end KnowledgeBase
