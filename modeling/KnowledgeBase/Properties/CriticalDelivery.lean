import KnowledgeBase.Invariant.AddressedWork
import KnowledgeBase.Invariant.ConfinedPasses

/-!
# Critical deliveries

A delivery dies when its attempts are used up or when its payload cannot be read. Its owner was inferred from the
payload it was enqueued with, and is looked up again among the Executions when it dies: the open Execution it was for
fails with the code of its kind in the same transaction, unless it carries a gate decision: `criticalDelivery`.
-/

namespace KnowledgeBase

open Transaction Database

/-! ### the death of a delivery -/

/-- `_mark_outbox_dead`, for a payload that cannot be read. -/
def markOutboxDeadTx (now : Time) (o : OutboxId) (token : Nat) (error : String) : Tx Unit := do
  let updated ← casOutbox o (fun r => r.status == .inFlight && r.leaseOwner == some token) fun r =>
    { r with status := .dead, leaseOwner := none, leaseExpiresAt := none }
  if updated then
    match (← get).outbox.get? o with
    | none => pure ()
    | some row => recordOutboxDeadTx now row error

/-- A step of the system, or a leased delivery whose payload cannot be read. -/
inductive DeliveryEvent
  | system (event : Event)
  | malformed (now : Time) (o : OutboxId) (token : Nat) (error : String)

def deliveryStep (d : Deployment) (s : Database) : DeliveryEvent → Database
  | .system event => systemStep d s event
  | .malformed now o token error => (markOutboxDeadTx now o token error).commit s

/-- The deliveries an event may write again. -/
def DeliveryEvent.Writes (event : DeliveryEvent) (o : OutboxId) : Prop :=
  match event with
  | .system ⟨_, .leaseOutbox _ _⟩ => True
  | .system ⟨_, .completeOutbox k _⟩ => k = o
  | .system ⟨_, .releaseOutbox k _ _⟩ => k = o
  | .malformed _ k _ _ => k = o
  | _ => False

/-- The delivery an event may kill. -/
def DeliveryEvent.Kills (event : DeliveryEvent) (o : OutboxId) : Prop :=
  match event with
  | .system ⟨_, .releaseOutbox k _ _⟩ => k = o
  | .malformed _ k _ _ => k = o
  | _ => False

def OutboxPayload.isGateDecision : OutboxPayload → Bool
  | gateDecision .. => true
  | _ => false

/-- The Execution is open. -/
def Database.OpenExecution (s : Database) (e : ExecutionId) : Prop :=
  ∃ row, s.executions.get? e = some row ∧ row.status.isTerminal = false

/-- The Execution has failed with a code. -/
def Database.FailedWith (s : Database) (e : ExecutionId) (code : String) : Prop :=
  ∃ row, s.executions.get? e = some row ∧ row.status = .failed ∧ row.finalErrorCode = some code

/-- Every delivery is addressed. -/
def Database.AllAddressed (s : Database) : Prop := ∀ o row, s.outbox.get? o = some row → row.Addressed s

/-! ### every step leaves the deliveries addressed -/

section step

variable {W D : OutboxId → Prop} (d : Deployment)

theorem posting_markOutboxDeadTx {b : Database} (now : Time) {o : OutboxId} (hW : W o) (ho : D o) (token : Nat) (error : String) :
    Posting W D b (markOutboxDeadTx now o token error) := by
  refine (posting_casOutbox (fun s row h => ?_) hW fun _ _ => .inl ho).bind fun updated => Triple.ite (fun _ => ?_)
    fun _ => Triple.keep
  · exact ⟨h.owner, h.ownerGeneration, h.critical, h.deadErrorCode, h.dated⟩
  · refine Triple.get_frame.bind fun db => ?_
    split
    · exact Triple.keep
    · exact posting_of_mail (keeps_mail_recordOutboxDeadTx now _ _)

/-- A step of the system leaves the deliveries addressed, writes none again but those it leases, completes or releases,
and kills none but the one it releases. -/
theorem posts_systemStep {s : Database} (hs : s.AllAddressed) (event : Event) :
    Posts (DeliveryEvent.system event).Writes (DeliveryEvent.system event).Kills s (systemStep d s event) := by
  obtain ⟨now, operation⟩ := event
  have refl (W D : OutboxId → Prop) : Posts W D s s := .refl hs
  unfold systemStep
  cases operation with
  | claimNext request =>
    have promoted : Posts (DeliveryEvent.system ⟨now, .claimNext request⟩).Writes
        (DeliveryEvent.system ⟨now, .claimNext request⟩).Kills s ((promoteDueRetriesTx now 64).commit s) :=
      (posting_promoteDueRetriesTx now 64).commit (refl _ _)
    exact (posting_claimNextTx d now request).commit promoted
  | markRunning p fence => exact (posting_of_mail (keeps_mail_markRunningTx now p fence)).commit (refl _ _)
  | heartbeat p fence leaseSeconds =>
    exact Triple.commit (posting_of_mail (Keeps.guard <| keeps_mail_casProcess _ _ _)) (refl _ _)
  | acceptOutcome outcome commit jitter => exact (posting_acceptOutcomeTx d now outcome commit jitter).commit (refl _ _)
  | promoteDueRetries limit => exact (posting_promoteDueRetriesTx now limit).commit (refl _ _)
  | recoverExpiredLeases limit => exact (posting_recoverExpiredLeasesTx d now limit).commit (refl _ _)
  | requestCancellation e => exact (posting_of_mail (keeps_mail_requestCancellationTx now e)).commit (refl _ _)
  | materializeRoot e => exact (posting_materializeRootTx d now e).commit (refl _ _)
  | consumeGateDecision decision => exact (posting_consumeGateDecisionTx d now decision).commit (refl _ _)
  | leaseOutbox token leaseSeconds => exact (posting_leaseOutboxRowTx now (fun _ => trivial) token leaseSeconds).commit (refl _ _)
  | dispatchDelivery o valid => exact (posting_handleDeliveryTx d now o valid).commit (refl _ _)
  | completeOutbox o token => exact (posting_completeOutboxTx rfl token).commit (refl _ _)
  | releaseOutbox o token error => exact Triple.commit (posting_releaseOutboxTx now rfl rfl token error) (refl _ _)
  | repairOnce =>
    dsimp only [Operation.step]
    unfold repairOnce
    split
    · exact refl _ _
    next db h =>
    have promoted : Posts (DeliveryEvent.system ⟨now, .repairOnce⟩).Writes
        (DeliveryEvent.system ⟨now, .repairOnce⟩).Kills s db :=
      posting_promoteDueRetriesTx now 128 _ _ _ (refl _ _) h
    split
    · exact promoted
    next db' h' => exact (posting_repairScanTx d now).commit (posting_recoverExpiredLeasesTx d now 128 _ _ _ promoted h')
  | evaluateCleanupEligibility limit => exact (posting_evaluateCleanupEligibilityTx d now limit).commit (refl _ _)
  | createTask request => exact (posting_createTaskTx d now request).commit (refl _ _)
  | patchTask t expectedRevision priority =>
    exact (posting_of_mail (keeps_mail_patchTaskTx d t expectedRevision priority)).commit (refl _ _)
  | cancelTask t expectedRevision => exact (posting_cancelTaskTx now t expectedRevision).commit (refl _ _)
  | retryTask t expectedRevision reason => exact (posting_retryTaskTx d now t expectedRevision reason).commit (refl _ _)
  | softDeleteTask t expectedRevision =>
    exact (posting_of_mail (keeps_mail_softDeleteTaskTx t expectedRevision)).commit (refl _ _)
  | decideGate request => exact (posting_decideGateTx d now request).commit (refl _ _)
  | stopExecution e command => exact (posting_of_mail (keeps_mail_stopExecutionTx now e command)).commit (refl _ _)
  | restartProcess p command => exact (posting_restartProcessTx now p command).commit (refl _ _)
  | requeueDeadOutbox o expectedGeneration idempotencyKey =>
    exact (posting_requeueDeadOutboxTx now o expectedGeneration idempotencyKey).commit (refl _ _)
  | applyLifecycle item action expectedRevision =>
    exact (posting_of_mail (keeps_mail_applyLifecycleTx now item action expectedRevision)).commit (refl _ _)
  | writeFacts write => exact (posting_of_mail (keeps_mail_writeFactsTx write)).commit (refl _ _)

/-- A step leaves the deliveries addressed, writes none again but those it may write, and kills none but the one it may
kill. -/
theorem posts_deliveryStep {s : Database} (hs : s.AllAddressed) (event : DeliveryEvent) :
    Posts event.Writes event.Kills s (deliveryStep d s event) := by
  cases event with
  | system event => exact posts_systemStep d hs event
  | malformed now o token error => exact Triple.commit (posting_markOutboxDeadTx now rfl rfl token error) (.refl hs)

theorem allAddressed_runFrom (events : List DeliveryEvent) :
    (runFrom (deliveryStep d) Database.empty events).AllAddressed := by
  have base : Database.empty.AllAddressed := fun o row hrow => by cases hrow
  suffices run : ∀ s : Database, s.AllAddressed → (runFrom (deliveryStep d) s events).AllAddressed from run _ base
  induction events with
  | nil => exact fun s hs => hs
  | cons event events ih => exact fun s hs => ih _ (posts_deliveryStep d hs event).addressed

end step

/-! ### what the death of a delivery does -/

section death

variable {s t : Database} {now : Time} {row : OutboxRow} {error : String}

theorem deadOwner?_of_addressed (h : row.Addressed s) {e : ExecutionId} (howner : row.payload.owner = .execution e) :
    s.deadOwner? row = ((s.executions.get? e).filter fun exec => !exec.status.isTerminal).map (Prod.mk e) := by
  have hgeneration : ∀ exec, s.executions.get? e = some exec →
      (row.ownerGeneration == 0 || exec.generation == row.ownerGeneration) = true := by
    intro exec hexec
    rcases h.dated e howner with hzero | ⟨i, hi, hgen⟩
    · simp [h.ownerGeneration, hzero]
    · obtain rfl : exec.identity = i := Option.some.inj ((identityOf_of_get? hexec).symm.trans hi)
      have hgen : exec.generation = row.payload.ownerGeneration := hgen
      simp [h.ownerGeneration, hgen]
  unfold deadOwner?
  rw [h.critical, h.owner, howner]
  dsimp only
  cases hexec : s.executions.get? e with
  | none => rfl
  | some exec => simp only [Option.filter, hgeneration exec hexec, Bool.and_true]

theorem deadOwner?_of_isGateDecision (h : row.Addressed s) (hgate : row.payload.isGateDecision = true) :
    s.deadOwner? row = none := by
  have howner : ∀ e, row.payload.owner ≠ .execution e := by
    intro e
    cases hpayload : row.payload with
    | gateDecision decision task generation => cases task <;> simp [OutboxPayload.owner]
    | _ => simp [hpayload, OutboxPayload.isGateDecision] at hgate
  unfold deadOwner?
  rw [h.owner]
  split
  · next e _ he => exact absurd he (howner e)
  · rfl

theorem closeDeadTx_failed {e : ExecutionId} {exec : ExecutionRow} {code : String}
    (h : (closeDeadTx now e exec code error).run s = .ok ((), t)) (hopen : s.OpenExecution e) : t.FailedWith e code := by
  obtain ⟨row, hrow, hstatus⟩ := hopen
  obtain ⟨updated, u, hcas, h⟩ := run_bind_ok.1 h
  have keep : t.executions = u.executions := keeps_executions_projectRootTaskTx _ _ _ _ _ _ _ _ _ _ _ h
  rcases compareAndSet_ok hcas with ⟨-, -, hmiss⟩ | ⟨-, rfl, -⟩
  · have hterminal := hmiss row hrow
    simp [hstatus] at hterminal
  · unfold FailedWith
    rw [keep]
    change ∃ r, (s.executions.modify e _).get? e = some r ∧ _
    rw [Table.get?_modify_self, hrow]
    exact ⟨_, rfl, rfl, rfl⟩

/-- The record of a dead delivery fails the Execution it was for, unless it carries a gate decision. -/
theorem recordOutboxDeadTx_failed (h : (recordOutboxDeadTx now row error).run s = .ok ((), t)) (haddressed : row.Addressed s)
    {e : ExecutionId} (hcarries : s.carries row.payload e) (hopen : s.OpenExecution e) :
    t.FailedWith e row.payload.deadErrorCode ↔ row.payload.isGateDecision = false := by
  obtain ⟨db, s', hget, h⟩ := run_bind_ok.1 h
  obtain ⟨rfl, rfl⟩ := run_get_ok.1 hget
  cases hgate : row.payload.isGateDecision with
  | true =>
    rw [deadOwner?_of_isGateDecision haddressed hgate] at h
    obtain ⟨-, rfl⟩ := run_pure_ok.1 h
    refine iff_of_false ?_ (by simp)
    rintro ⟨r, hr, hstatus, -⟩
    obtain ⟨r', hr', hopen⟩ := hopen
    obtain rfl := Option.some.inj (hr.symm.trans hr')
    simp [hstatus, ExecutionStatus.isTerminal] at hopen
  | false =>
    have howner : row.payload.owner = .execution e := by
      cases hpayload : row.payload with
      | gateDecision decision task generation => simp [hpayload, OutboxPayload.isGateDecision] at hgate
      | _ =>
        rw [hpayload] at hcarries
        exact congrArg OutboxOwner.execution hcarries
    obtain ⟨exec, hexec, hstatus⟩ := hopen
    rw [deadOwner?_of_addressed haddressed howner, hexec] at h
    simp only [Option.filter, hstatus, Bool.not_false, if_true, Option.map_some] at h
    rw [haddressed.deadErrorCode] at h
    exact iff_of_true (closeDeadTx_failed h ⟨exec, hexec, hstatus⟩) rfl

end death

/-! ### the events that kill -/

/-- The record of a dead delivery, as the last write of a transaction that has only touched the deliveries. -/
def RecordsDeath (s t : Database) (payload : OutboxPayload) : Prop :=
  ∃ (outbox : Table OutboxRow) (row : OutboxRow) (now : Time) (error : String), row.payload = payload ∧ row.Addressed s ∧
    (recordOutboxDeadTx now row error).run { s with outbox := outbox } = .ok ((), t)

section kills

variable {s t : Database} {now : Time} {o : OutboxId} {row : OutboxRow} {token : Nat} {error : String}

theorem casOutbox_ok {c : OutboxRow → Bool} {g : OutboxRow → OutboxRow} {updated : Bool}
    (h : (casOutbox o c g).run s = .ok (updated, t)) (hrow : s.outbox.get? o = some row) :
    (updated = false ∧ t = s) ∨
      (updated = true ∧ t = { s with outbox := s.outbox.modify o g } ∧ t.outbox.get? o = some (g row)) := by
  rcases compareAndSet_ok h with ⟨hupdated, rfl, -⟩ | ⟨hupdated, rfl, -⟩
  · exact .inl ⟨hupdated, rfl⟩
  · refine .inr ⟨hupdated, rfl, ?_⟩
    change (s.outbox.modify o g).get? o = _
    rw [Table.get?_modify_self, hrow, Option.map_some]

theorem recordsDeath_of_releaseOutboxTx (h : (releaseOutboxTx now o token error).run s = .ok ((), t))
    (hrow : s.outbox.get? o = some row) (haddressed : row.Addressed s) (halive : row.status ≠ .dead)
    (hdead : t.DeadDelivery o) : RecordsDeath s t row.payload := by
  obtain ⟨r, hr, hstatus⟩ := hdead
  obtain ⟨db, s', hget, h⟩ := run_bind_ok.1 h
  obtain ⟨rfl, rfl⟩ := run_get_ok.1 hget
  rw [hrow] at h
  obtain ⟨released, u, hcas, hend⟩ := run_bind_ok.1 h
  rcases casOutbox_ok hcas hrow with ⟨rfl, rfl⟩ | ⟨rfl, rfl, hu⟩
  · rw [if_neg (by simp)] at hend
    obtain ⟨-, rfl⟩ := run_pure_ok.1 hend
    obtain rfl := Option.some.inj (hr.symm.trans hrow)
    exact absurd hstatus halive
  · by_cases hbudget : row.attemptBudget ≤ row.attempts
    · rw [if_pos (by simp [hbudget])] at hend
      exact ⟨_, row, now, error, rfl, haddressed, hend⟩
    · rw [if_neg (by simp [hbudget])] at hend
      obtain ⟨-, rfl⟩ := run_pure_ok.1 hend
      obtain rfl := Option.some.inj (hr.symm.trans hu)
      simp [hbudget] at hstatus

theorem recordsDeath_of_markOutboxDeadTx (h : (markOutboxDeadTx now o token error).run s = .ok ((), t))
    (hrow : s.outbox.get? o = some row) (haddressed : row.Addressed s) (halive : row.status ≠ .dead)
    (hdead : t.DeadDelivery o) : RecordsDeath s t row.payload := by
  obtain ⟨r, hr, hstatus⟩ := hdead
  obtain ⟨updated, u, hcas, hend⟩ := run_bind_ok.1 h
  rcases casOutbox_ok hcas hrow with ⟨rfl, rfl⟩ | ⟨rfl, rfl, hu⟩
  · rw [if_neg (by simp)] at hend
    obtain ⟨-, rfl⟩ := run_pure_ok.1 hend
    obtain rfl := Option.some.inj (hr.symm.trans hrow)
    exact absurd hstatus halive
  · rw [if_pos rfl] at hend
    obtain ⟨db, s', hget, hend⟩ := run_bind_ok.1 hend
    obtain ⟨rfl, rfl⟩ := run_get_ok.1 hget
    rw [hu] at hend
    exact ⟨_, _, now, error, rfl, ⟨haddressed.owner, haddressed.ownerGeneration, haddressed.critical,
      haddressed.deadErrorCode, haddressed.dated⟩, hend⟩

theorem recordsDeath_of_deliveryStep (d : Deployment) (hs : s.AllAddressed) (event : DeliveryEvent)
    (hrow : s.outbox.get? o = some row) (halive : row.status ≠ .dead) (hdead : (deliveryStep d s event).DeadDelivery o) :
    RecordsDeath s (deliveryStep d s event) row.payload := by
  have hold : ¬ s.DeadDelivery o := by
    rintro ⟨r, hr, hstatus⟩
    obtain rfl := Option.some.inj (hr.symm.trans hrow)
    exact halive hstatus
  have hkills := ((posts_deliveryStep d hs event).died o hdead).resolve_right hold
  -- a transaction that raises leaves the delivery as it was
  have commit {x : Tx Unit} (hx : ∀ t, x.run s = .ok ((), t) → t.DeadDelivery o → RecordsDeath s t row.payload)
      (hd : (x.commit s).DeadDelivery o) : RecordsDeath s (x.commit s) row.payload := by
    rcases commit_cases x s with hc | ⟨a, ha⟩
    · rw [hc] at hd
      exact absurd hd hold
    · exact hx _ ha hd
  cases event with
  | system event =>
    obtain ⟨now, operation⟩ := event
    cases operation with
    | releaseOutbox k token error =>
      obtain rfl : k = o := hkills
      exact commit (fun t ht => recordsDeath_of_releaseOutboxTx ht hrow (hs k row hrow) halive) hdead
    | _ => exact hkills.elim
  | malformed now k token error =>
    obtain rfl : k = o := hkills
    exact commit (fun t ht => recordsDeath_of_markOutboxDeadTx ht hrow (hs k row hrow) halive) hdead

end kills

/-- In every run, the death of a delivery fails the open Execution it is for with the code of its kind if and only if
the delivery carries no gate decision. -/
theorem criticalDelivery (d : Deployment) (events : List DeliveryEvent) (event : DeliveryEvent) {s : Database}
    (hs : runFrom (deliveryStep d) Database.empty events = s) {o : OutboxId} {row : OutboxRow} {e : ExecutionId}
    (hrow : s.outbox.get? o = some row) (halive : row.status ≠ .dead) (hdead : (deliveryStep d s event).DeadDelivery o)
    (hcarries : s.carries row.payload e) (hopen : s.OpenExecution e) :
    (deliveryStep d s event).FailedWith e row.payload.deadErrorCode ↔ row.payload.isGateDecision = false := by
  have haddressed : s.AllAddressed := hs ▸ allAddressed_runFrom d events
  obtain ⟨outbox, r, now, error, hpayload, hr, h⟩ :=
    recordsDeath_of_deliveryStep d haddressed event hrow halive hdead
  rw [← hpayload] at hcarries ⊢
  exact recordOutboxDeadTx_failed h (hr.mono fun _ _ h => h) hcarries hopen

/-! ### a wake and a decision that die -/

/-- A delivery that is leased and released by a failing handler, so many times. -/
def sampleReleases (start : Time) (o : OutboxId) (n : Nat) : List Event :=
  (List.range n).flatMap fun i => [⟨start + 2000000 * i, .leaseOutbox (i + 1) 30⟩,
    ⟨start + 2000000 * i + 1, .releaseOutbox o (i + 1) "handler failed"⟩]

/-- The wake of a new root, whose handler has failed seven times and is at it again. -/
def sampleWake : List DeliveryEvent :=
  List.map .system
    ([⟨1, .createTask { team := 0, requestIntent := .indexRebuild, workflowRevision := 1, compiledDigest := 7 }⟩] ++
      sampleReleases 2 0 7 ++ [⟨14000002, .leaseOutbox 8 30⟩])

/-- The eighth failure fails the root. -/
theorem criticalDelivery_wake : (deliveryStep sampleDeployment
    (runFrom (deliveryStep sampleDeployment) Database.empty sampleWake)
    (.system ⟨14000003, .releaseOutbox 0 8 "handler failed"⟩)).FailedWith 0 "OUTBOX_WAKE_DEAD" := by
  obtain ⟨s, hs⟩ : ∃ s, runFrom (deliveryStep sampleDeployment) Database.empty sampleWake = s := ⟨_, rfl⟩
  have hrow : (s.outbox.get? 0).any (fun row => row.status != .dead &&
      row.payload == .wakeExecution 0 (some 0) (some 1)) = true := by
    rw [← hs]
    decide +kernel
  have hopen : (s.executions.get? 0).any (fun row => !row.status.isTerminal) = true := by
    rw [← hs]
    decide +kernel
  have hdead : ((deliveryStep sampleDeployment s (.system ⟨14000003, .releaseOutbox 0 8 "handler failed"⟩)).outbox.get?
      0).any (fun row => row.status == .dead) = true := by
    rw [← hs]
    decide +kernel
  obtain ⟨row, hrow, hstate⟩ := (Option.any_eq_true _ _).1 hrow
  obtain ⟨exec, hexec, hstatus⟩ := (Option.any_eq_true _ _).1 hopen
  obtain ⟨dead, hdead, hkilled⟩ := (Option.any_eq_true _ _).1 hdead
  simp only [Bool.and_eq_true, bne_iff_ne, beq_iff_eq] at hstate hkilled
  have hfailed := (criticalDelivery sampleDeployment sampleWake (.system ⟨14000003, .releaseOutbox 0 8 "handler failed"⟩)
    hs hrow hstate.1 ⟨dead, hdead, hkilled⟩ (e := 0) (by rw [hstate.2]; rfl) ⟨exec, hexec, by simpa using hstatus⟩).2
    (by rw [hstate.2]; rfl)
  rw [hstate.2] at hfailed
  rw [hs]
  exact hfailed

def sampleControlStep (stepKey controlKey : String) : WorkflowStepDefinition where
  stepKey := stepKey
  stepKind := .control
  controlKey := some controlKey

def sampleProcessRoutes (stepKey next : String) : List WorkflowRouteDefinition :=
  [sampleRoute (stepKey ++ "_succeeded") stepKey next .normal .succeeded,
    sampleRoute (stepKey ++ "_failed") stepKey "failed" .terminal .failed,
    sampleRoute (stepKey ++ "_cancelled") stepKey "failed" .terminal .cancelled]

/-- An intake whose accepted Snapshot is reviewed by a human. -/
def reviewWorkflow : WorkflowDefinition where
  workflowKey := "intake.review"
  requiredProcessKeys := ["intake.capture", "clean.extract.deterministic", "intake.preflight_validate",
    "intake.accept_snapshot"]
  steps := [{ stepKey := "start", stepKind := .start, hasPhase := false }, sampleProcessStep "capture" "intake.capture",
    sampleProcessStep "clean" "clean.extract.deterministic",
    sampleProcessStep "preflight_validate" "intake.preflight_validate",
    sampleProcessStep "accept_snapshot" "intake.accept_snapshot", sampleControlStep "review" "human_review_gate",
    sampleTerminalStep "done" .success, sampleTerminalStep "failed" .failure]
  routes := sampleRoute "begin" "start" "capture" .normal .always :: sampleProcessRoutes "capture" "clean" ++
    sampleProcessRoutes "clean" "preflight_validate" ++ sampleProcessRoutes "preflight_validate" "accept_snapshot" ++
    sampleProcessRoutes "accept_snapshot" "review" ++ [sampleRoute "review_approved" "review" "done" .terminal .succeeded,
      sampleRoute "review_rejected" "review" "failed" .terminal .failed,
      sampleRoute "review_cancelled" "review" "failed" .terminal .cancelled]

theorem validateDefinition_review : reviewWorkflow.validateDefinition = .ok () := by decide +kernel

def reviewDeployment : Deployment where
  plans := [(7, ⟨reviewWorkflow, validateDefinition_review⟩)]
  activeWorkflowKeys := ["intake.review"]
  revisions := [(1, ⟨7, "intake.review", .root, ["start", "capture", "clean", "preflight_validate", "accept_snapshot",
    "review", "done", "failed"]⟩)]

def sampleSuccess (p : ProcessId) : OutcomeContent where
  team := 0
  task := 0
  execution := 0
  process := p
  fencingGeneration := 1
  disposition := .succeeded
  outputManifest := some 0
  proof := some 0

/-- A Process is claimed, runs and succeeds. -/
def sampleWork (p : ProcessId) : List Event :=
  [⟨3 + p, .claimNext { leaseOwner := "worker", token := p }⟩, ⟨3 + p, .markRunning p 1⟩,
    ⟨3 + p, .acceptOutcome { sampleSuccess p with outcomeDigest := sampleSuccess p } none 0⟩]

/-- The Processes of an intake, up to the gate of its review. -/
def sampleReview : List Event :=
  [⟨1, .createTask { team := 0, requestIntent := .intakeIngest, workflowRevision := 1, compiledDigest := 7 }⟩,
    ⟨1, .writeFacts fun facts => .ok { facts with
      candidateSets := [{ producerExecution := 0, admissionResult := some .humanReviewRequired }]
      representations := [⟨0, 0, 0, .present, .text, .notApplicable, .other⟩]
      reviewEvidence := [⟨0, 0, 1, 1⟩] }⟩,
    ⟨2, .materializeRoot 0⟩] ++ (List.range 4).flatMap sampleWork

/-- The approval of the gate, the five earlier deliveries in the hands of another worker, and the handler of the
decision failed seven times and at it again. -/
def sampleApproval : List Event :=
  match (runFrom (systemStep reviewDeployment) Database.empty sampleReview).gates.get? 0 with
  | none => []
  | some gate => ⟨10, .decideGate ⟨0, 0, 0, gate.target, .approve, 1, 1⟩⟩ :: List.replicate 5 ⟨11, .leaseOutbox 0 3600⟩ ++
    sampleReleases 12 5 7 ++ [⟨14000012, .leaseOutbox 8 30⟩]

/-- The eighth failure leaves the Execution waiting on its decided gate. -/
theorem criticalDelivery_decision : ¬ ∀ (d : Deployment) (events : List DeliveryEvent) (event : DeliveryEvent)
    (s : Database) (o : OutboxId) (row : OutboxRow) (e : ExecutionId),
    runFrom (deliveryStep d) Database.empty events = s → s.outbox.get? o = some row → row.status ≠ .dead →
    (deliveryStep d s event).DeadDelivery o → s.carries row.payload e → s.OpenExecution e →
    (deliveryStep d s event).FailedWith e row.payload.deadErrorCode := by
  intro claim
  obtain ⟨s, hs⟩ : ∃ s, runFrom (deliveryStep reviewDeployment) Database.empty
    (List.map .system (sampleReview ++ sampleApproval)) = s := ⟨_, rfl⟩
  have before : ((s.outbox.get? 5).any (fun row => row.status != .dead &&
      row.payload == .gateDecision 0 (some 0) (some 1)) && (s.executions.get? 0).any (fun row => !row.status.isTerminal) &&
      ((s.decisions.get? 0).bind fun r => s.gates.get? r.gate).any fun gate => gate.execution == 0) = true := by
    rw [← hs]
    decide +kernel
  have after : (((deliveryStep reviewDeployment s (.system ⟨14000013, .releaseOutbox 5 8 "handler failed"⟩)).outbox.get?
      5).any (fun row => row.status == .dead) &&
      ((deliveryStep reviewDeployment s (.system ⟨14000013, .releaseOutbox 5 8 "handler failed"⟩)).executions.get? 0).any
        fun row => row.status == .waiting) = true := by
    rw [← hs]
    decide +kernel
  simp only [Bool.and_eq_true, Option.any_eq_true, bne_iff_ne, beq_iff_eq, Bool.not_eq_true'] at before after
  obtain ⟨⟨⟨row, hrow, hlive, hpayload⟩, exec, hexec, hstatus⟩, gate, hgate, hexecution⟩ := before
  obtain ⟨⟨dead, hdead, hkilled⟩, waiting, hwaiting, hwaits⟩ := after
  obtain ⟨record, hrecord, hgate⟩ := Option.bind_eq_some_iff.1 hgate
  have hcarries : s.carries row.payload 0 := by
    rw [hpayload]
    exact ⟨record, gate, hrecord, hgate, hexecution⟩
  obtain ⟨failed, hfailed, hfails, -⟩ := claim reviewDeployment _ (.system ⟨14000013, .releaseOutbox 5 8 "handler failed"⟩)
    s 5 row 0 hs hrow hlive ⟨dead, hdead, hkilled⟩ hcarries ⟨exec, hexec, hstatus⟩
  obtain rfl := Option.some.inj (hwaiting.symm.trans hfailed)
  rw [hwaits] at hfails
  cases hfails

end KnowledgeBase
