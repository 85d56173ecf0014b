import KnowledgeBase.Invariant.ConfinedWork

/-!
# Deliveries, leases and repairs

The scheduler's work for one Execution is confined to its trees: the recovery of a lease, a wake, a cancellation, a
gate decision, a dead delivery, the start of a Process, and every part of a repair pass.
-/

namespace KnowledgeBase

open Transaction Database

section work

variable {R : ExecutionId → Prop} {b : Database} (d : Deployment) (now : Time) {e : ExecutionId}

/-! ### leases and retries -/

theorem keeps_ledger_promoteRetryTx (p : ProcessRecord) : Keeps ledger (promoteRetryTx now p) :=
  (keeps_ledger_casProcess _ _ _).bind fun _ => Keeps.ite ((keeps_ledger_casExecution (fun _ => by rfl) _ _).bind
    fun _ => (keeps_ledger_enqueueTx _ _ _ _).bind fun _ => Keeps.pure _) (Keeps.pure _)

theorem confined_recoverLeaseTx {p : ProcessRecord} (he : b.Within R p.2.execution) :
    Confined R b (recoverLeaseTx d now p) := by
  refine confined_execution he fun row _ => Triple.ite (fun _ => ?_) fun _ => Triple.ite (fun _ => ?_) fun _ =>
    Triple.ite (fun _ => ?_) fun _ => ?_
  · exact (confined_of_ledger (keeps_ledger_casProcess _ _ _)).bind fun _ =>
      (confined_convergeCancellationTx now he).bind fun _ => Triple.keep
  · exact (confined_failAndRouteTx d now he _ _ _ _ _ _).bind fun _ => Triple.keep
  · exact (confined_failAndRouteTx d now he _ _ _ _ _ _).bind fun _ => Triple.keep
  · exact (confined_of_ledger (keeps_ledger_casProcess _ _ _)).bind fun _ => Triple.ite
      (fun _ => (confined_of_ledger (keeps_ledger_enqueueTx _ _ _ _)).bind fun _ => Triple.keep)
      fun _ => Triple.keep

theorem confined_failExpiredReadyTx {p : ProcessRecord} (he : b.Within R p.2.execution) :
    Confined R b (failExpiredReadyTx d now p) :=
  confined_execution he fun _ _ => Triple.ofExcept_frame.bind fun _ =>
    (confined_of_ledger (keeps_ledger_failProcessTx now p _ _ _)).bind fun _ => confined_execution he fun _ _ =>
      (confined_routeAfterTerminalProcessTx d now he _ _ _ _ _).bind fun _ => confined_refreshExecutionCountsTx he

theorem confines_markRunningTx {s : Database} (hs : s.WellFormed) (p : ProcessId) (fence : Nat)
    (h : ∀ row, s.processes.get? p = some row → s.Within R row.execution) :
    Triple (fun t => t = s) (markRunningTx now p fence) fun _ => Confines R s := by
  refine (Triple.processWithExecution (Q := fun r t => s.Within R r.1.execution ∧ Confines R s t)
    fun t row _ _ ht hp _ _ => ?_).bind fun r => Triple.intro fun he => ?_
  · subst ht
    exact ⟨h row hp, .refl hs⟩
  refine Triple.ite (fun _ => Triple.keep) fun _ => (confined_of_ledger (keeps_ledger_casProcess _ _ _)).bind
    fun _ => Triple.guard <| confined_execution he fun row hplaced =>
      (confined_of_ledger (keeps_ledger_casExecution (fun _ => by rfl) _ _)).bind fun _ => ?_
  split
  · next hroot =>
    have hroot : row.root = r.1.execution := by simpa using hroot
    exact (confined_projectTaskStatusTx now _ rfl (hroot ▸ hplaced.1)).bind fun _ => Triple.keep
  · exact Triple.keep

/-! ### wakes, cancellations and decisions -/

theorem within_root {row : ExecutionRow} (he : b.Within R e) {s : Database} (hs : Confines R b s)
    (hrow : s.executions.get? e = some row) : b.Within R row.root := by
  rcases he with h | ⟨hb, i, hi, hR⟩
  · exact Or.inl h
  · have hid : i = row.identity := Option.some.inj ((hs.known e i hi).symm.trans (identityOf_of_get? hrow))
    obtain ⟨r, hr, hrr, -⟩ := hb.root_root hi
    subst hid
    exact .of_identity hb hr (by rw [hrr]; exact hR)

theorem confined_requestCancellationTx (he : b.Within R e) : Confined R b (requestCancellationTx now e) := by
  refine (Triple.execution (Q := fun row s => b.Within R row.root ∧ Confines R b s) fun s row hs hrow =>
    ⟨within_root he hs hrow, hs⟩).bind fun row => Triple.intro fun hr => ?_
  refine Triple.ite (fun _ => Triple.keep) fun _ => confined_execution hr fun _ _ => ?_
  exact (confined_cancelExecutionTreeTx now hr true).bind fun _ => (confined_refreshExecutionCountsTx hr).bind fun _ =>
    Triple.keep

theorem confined_stopExecutionTx (he : b.Within R e) (c : OperatorCommand) :
    Confined R b (stopExecutionTx now e c) := by
  refine Triple.guard <| Triple.get.bind fun db => Triple.ite
    (fun _ => Triple.pure fun _ h => h.2) fun _ => ?_
  refine (Triple.orRaise (Q := fun row s => b.Within R row.root ∧ Confines R b s) fun s row hs hrow => ?_).bind
    fun row => Triple.intro fun hr => ?_
  · obtain ⟨rfl, hs⟩ := hs
    exact ⟨within_root he hs (Option.filter_eq_some_iff.1 hrow).1, hs⟩
  refine Triple.guard <| Triple.guard <| confined_execution hr fun _ _ => ?_
  exact (confined_cancelExecutionTreeTx now hr true).bind fun _ =>
    (confined_of_ledger (Keeps.modify fun _ => by rfl)).bind fun _ => Triple.keep

theorem confined_materializeRootTx (he : b.Within R e) : Confined R b (materializeRootTx d now e) := by
  refine confined_execution he fun row _ => Triple.ite (fun _ => Triple.keep) fun _ =>
    Triple.ite (fun _ => ?_) fun _ => Triple.ite (fun _ => Triple.ite (fun _ => ?_) fun _ => Triple.keep)
      fun _ => Triple.get_frame.bind fun db => Triple.ofExcept_frame.bind fun r => ?_
  · exact (confined_convergeCancellationTx now he).bind fun _ => Triple.keep
  · exact (confined_maybeConvergeScatterRootTx now he).bind fun _ => (confined_refreshExecutionCountsTx he).bind fun _ =>
      Triple.keep
  refine Triple.ite (fun _ => ?_) fun _ => Triple.ofExcept_frame.bind fun decision => Triple.ite (fun _ => ?_) fun _ => ?_
  · exact (confined_failExecutionIntegrityTx now he _ _).bind fun _ => Triple.keep
  · exact (confined_failExecutionIntegrityTx now he _ _).bind fun _ => Triple.keep
  · exact (confined_applyRoutesTx d now r.1 b e _ _ _ _ _ he).bind fun _ =>
      (confined_refreshExecutionCountsTx he).bind fun _ => Triple.keep

theorem confines_consumeGateDecisionTx {s : Database} (hs : s.WellFormed) (decision : DecisionId)
    (h : ∀ record gate, s.decisions.get? decision = some record → s.gates.get? record.gate = some gate →
      s.Within R gate.execution) :
    Triple (fun t => t = s) (consumeGateDecisionTx d now decision) fun _ => Confines R s := by
  refine Triple.get.bind fun db => (Triple.orRaise (Q := fun r t => s.Within R r.2.execution ∧ Confines R s t)
    fun t r ht hr => ?_).bind fun r => Triple.intro fun he => ?_
  · obtain ⟨rfl, rfl⟩ := ht
    obtain ⟨record, hrecord, hr⟩ := Option.bind_eq_some_iff.1 hr
    obtain ⟨gate, hgate, rfl⟩ := Option.map_eq_some_iff.1 hr
    exact ⟨h record gate hrecord hgate, .refl hs⟩
  refine Triple.guard <| Triple.guard <| Triple.guard <|
    confined_execution he fun row _ => Triple.ite (fun _ => Triple.keep) fun _ =>
      Triple.ite (fun _ => Triple.keep) fun _ => ?_
  have resume : Keeps ledger (resumeFromGateTx r.2.execution r.1.gate row) :=
    Keeps.ite (Keeps.pure _) ((keeps_ledger_casExecution (fun _ => by rfl) _ _).bind fun _ =>
      Keeps.guard <| keeps_execution _)
  have review (action : GateAction) (row : ExecutionRow) :
      Keeps ledger (modify (applyHumanReviewItemLifecycle now action row) : Tx PUnit) :=
    Keeps.modify fun s => by
      unfold applyHumanReviewItemLifecycle
      split <;> rfl
  exact (confined_of_ledger resume).bind fun row => Triple.get_frame.bind fun db => Triple.ofExcept_frame.bind fun q =>
    (confined_of_ledger (review _ row)).bind fun _ => (confined_applyRoutesTx d now q.1 s _ _ _ _ _ _ he).bind fun _ =>
      (confined_refreshExecutionCountsTx he).bind fun _ => Triple.keep

/-! ### deliveries -/

/-- The Execution a delivery is for. -/
def Database.carries (s : Database) (payload : OutboxPayload) (e : ExecutionId) : Prop :=
  match payload with
  | .wakeExecution id _ _ => id = e
  | .wakeProcess id _ => id = e
  | .cancelExecution id _ => id = e
  | .vectorizeConstruct id _ _ => id = e
  | .gateDecision id _ _ => ∃ record gate, s.decisions.get? id = some record ∧ s.gates.get? record.gate = some gate ∧
      gate.execution = e

theorem confines_handleDeliveryTx {s : Database} (hs : s.WellFormed) (o : OutboxId) (valid : Bool)
    (h : ∀ row e, s.outbox.get? o = some row → s.carries row.payload e → s.Within R e) :
    Triple (fun t => t = s) (handleDeliveryTx d now o valid) fun _ => Confines R s := by
  refine Triple.get.bind fun db => ?_
  have start : ∀ t, db = t ∧ t = s → Confines R s t := by
    rintro t ⟨-, rfl⟩
    exact .refl hs
  split
  · exact Triple.pure start
  next row hrow =>
  refine Triple.pre (P := fun t => s.outbox.get? o = some row ∧ t = s) (Triple.intro fun hrow => ?_) fun t ht => ?_
  · have start : ∀ t, t = s → Confines R s t := by
      rintro t rfl
      exact .refl hs
    split
    · next e _ _ hp =>
      exact ((confined_materializeRootTx d now (h row e hrow (by rw [hp]; rfl))).pre start).bind fun _ =>
        Triple.keep
    · exact Triple.pure start
    · next e _ hp =>
      exact ((confined_requestCancellationTx now (h row e hrow (by rw [hp]; rfl))).pre start).bind fun _ =>
        Triple.keep
    · next decision _ _ hp =>
      exact (confines_consumeGateDecisionTx d now hs decision fun record gate hrecord hgate =>
        h row _ hrow (by rw [hp]; exact ⟨record, gate, hrecord, hgate, rfl⟩)).bind fun _ => Triple.keep
    · exact Triple.raiseIf fun t ht _ => start t ht
  · obtain ⟨rfl, rfl⟩ := ht
    exact ⟨(Option.filter_eq_some_iff.1 hrow).1, rfl⟩

theorem confined_closeDeadTx {row : ExecutionRow} (hR : R row.root) (errorCode error : String) :
    Confined R b (closeDeadTx now e row errorCode error) :=
  (confined_of_ledger (keeps_ledger_casExecution (fun _ => by rfl) _ _)).bind fun _ =>
    confined_projectRootTaskTx now e hR _ _ _ _ _

theorem confines_releaseOutboxTx {s : Database} (hs : s.WellFormed) (o : OutboxId) (token : Nat) (error : String)
    (h : ∀ row e, s.outbox.get? o = some row → row.owner = .execution e → s.Within R e) :
    Triple (fun t => t = s) (releaseOutboxTx now o token error) fun _ => Confines R s := by
  refine Triple.get.bind fun db => ?_
  have start : ∀ t, db = t ∧ t = s → Confines R s t := by
    rintro t ⟨-, rfl⟩
    exact .refl hs
  split
  · exact Triple.pure start
  next row hrow =>
  refine Triple.pre (P := fun t => s.outbox.get? o = some row ∧ Confines R s t) (Triple.intro fun hrow => ?_)
    fun t ht => ?_
  · refine (confined_of_ledger (keeps_ledger_casOutbox _ _ _)).bind fun released =>
      Triple.ite (fun _ => Triple.get.bind fun db => ?_) fun _ => Triple.keep
    split
    · exact Triple.pure fun _ h => h.2
    next e exec hdead =>
    refine Triple.pre (P := fun t => exec.Placed R s ∧ Confines R s t) (Triple.intro fun hplaced =>
      confined_closeDeadTx now hplaced.1 _ _) fun t ht => ?_
    obtain ⟨rfl, ht⟩ := ht
    unfold deadOwner? at hdead
    split at hdead
    · next k howner =>
      obtain ⟨exec', hexec, heq⟩ := Option.map_eq_some_iff.1 hdead
      obtain ⟨rfl, rfl⟩ := Prod.mk.inj heq
      exact ⟨(h row _ hrow howner).placed ht (identityOf_of_get? (Option.filter_eq_some_iff.1 hexec).1), ht⟩
    · cases hdead
  · obtain ⟨rfl, rfl⟩ := ht
    exact ⟨hrow, .refl hs⟩

/-! ### the parts of a repair pass -/

theorem confined_repairTerminalProcessTransitionTx (he : b.Within R e) (row : ExecutionRow) (p : ProcessId) :
    Confined R b (repairTerminalProcessTransitionTx d now e row p) := by
  refine (confined_of_ledger (keeps_processWithExecution p)).bind fun r => Triple.ofExcept_frame.bind fun plan =>
    Triple.ite (fun _ => ?_) fun _ => ?_
  · exact (confined_failExecutionIntegrityTx now he _ _).bind fun _ => Triple.keep
  · exact Triple.ofExcept_frame.bind fun decision => (confined_applyRoutesTx d now plan b e _ _ _ _ _ he).bind fun _ =>
      Triple.keep

theorem confined_repairWaitTx (he : b.Within R e) {row : ExecutionRow} (hrow : row.Placed R b) :
    Confined R b (repairWaitTx now e row) := by
  have fail (code message : String) : Confined R b (do failExecutionIntegrityTx now e code message; pure 1) :=
    (confined_failExecutionIntegrityTx now he code message).bind fun _ => Triple.keep
  have prerequisite (parent : Option ExecutionRow) : Confined R b (repairPrerequisiteTx now e row parent) := by
    refine Triple.ite (fun _ => ?_) fun _ => fail _ _
    split
    · next id _ hid _ =>
      exact Triple.ite (fun _ => (confined_cancelExecutionTreeTx now (hrow.2 id hid) false).bind fun _ =>
        Triple.keep) fun _ => Triple.keep
    · exact Triple.keep
  unfold repairWaitTx
  split
  · exact (confined_maybeConvergeScatterRootTx now he).bind fun _ => Triple.keep
  · split
    · next id hid =>
      exact confined_execution (hrow.2 id hid) fun _ _ => Triple.bind (Q := fun _ => Confines R b)
        (Triple.keep) fun parent => prerequisite parent
    · exact Triple.bind (Q := fun _ => Confines R b) (Triple.keep) fun parent => prerequisite parent
  · exact Triple.get_frame.bind fun _ => Triple.ite (fun _ => Triple.keep) fun _ => fail _ _
  · exact Triple.get_frame.bind fun _ => Triple.ite (fun _ => Triple.keep) fun _ => fail _ _
  · exact fail _ _

theorem confined_repairTerminalProjectionTx (he : b.Within R e) (hR : R e) (row : ExecutionRow) :
    Confined R b (repairTerminalProjectionTx now (e, row)) :=
  (confined_refreshExecutionCountsTx he).bind fun _ =>
    (confined_of_ledger (keeps_ledger_casExecution (fun _ => by rfl) _ _)).bind fun _ =>
      (confined_projectTaskStatusTx now _ rfl hR).bind fun _ => Triple.keep

end work

end KnowledgeBase
