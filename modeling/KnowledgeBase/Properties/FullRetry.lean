import KnowledgeBase.Invariant.ConfinedPasses

/-!
# Full retry

The accepted retry commands of a Task are pairwise different and as many as the generations after the first. A step
leaves the head of a Task alone or is the one retry that moves a failed or cancelled Task to the next generation, and
no work in the tree of an older root writes the Task: `retryExactlyOnce`.
-/

namespace KnowledgeBase

open Transaction Database

/-! ### the whole engine -/

/-- Every root. -/
def AnyRoot (_ : ExecutionId) : Prop := True

theorem within_anyRoot (b : Database) (e : ExecutionId) : b.Within AnyRoot e := Or.inl fun _ => trivial

theorem placed_anyRoot (b : Database) (row : ExecutionRow) : row.Placed AnyRoot b :=
  ⟨trivial, fun p _ => within_anyRoot b p⟩

section engine

variable {b : Database} (d : Deployment) (now : Time)

theorem keeps_ledger_admitWaitingProcessesTx : Keeps ledger (admitWaitingProcessesTx d now) :=
  fun s a t h => Triple.admitWaitingProcessesTx (P := fun u => u.ledger = s.ledger) (fun _ hu => hu)
    (fun p _ u c v hu hv => (keeps_ledger_casProcess p _ _ u c v hv).trans hu) s a t rfl h

theorem keeps_ledger_claimCandidateTx (request : ClaimRequest) (c : ProcessRecord) :
    Keeps ledger (claimCandidateTx now request c) :=
  (keeps_ledger_casProcess _ _ _).bind fun _ => Keeps.ite ((keeps_processWithExecution _).bind fun _ =>
    (Keeps.ofExcept _).bind fun _ => Keeps.pure _) (Keeps.pure _)

theorem confined_claimLoopTx (request : ClaimRequest) (rounds : Nat) :
    Confined AnyRoot b (claimLoopTx d now request rounds) := by
  induction rounds with
  | zero => exact Triple.keep
  | succ rounds ih =>
    refine Triple.get_frame.bind fun db => ?_
    split
    · exact (confined_failExpiredReadyTx d now (within_anyRoot b _)).bind fun _ => ih
    refine (confined_of_ledger (keeps_ledger_admitWaitingProcessesTx d now)).bind fun _ =>
      Triple.get_frame.bind fun db => ?_
    split
    · exact Triple.keep
    refine confined_execution (within_anyRoot b _) fun row _ => Triple.ofExcept_frame.bind fun plan =>
      Triple.ofExcept_frame.bind fun _ => Triple.ite (fun _ => ?_) fun _ => ?_
    · exact (confined_failExpiredReadyTx d now (within_anyRoot b _)).bind fun _ => ih
    · refine (confined_of_ledger (keeps_ledger_claimCandidateTx now request _)).bind fun claimed => ?_
      split
      · exact Triple.keep
      · exact ih

theorem confined_claimNextTx (request : ClaimRequest) : Confined AnyRoot b (claimNextTx d now request) :=
  Triple.guard <| Triple.guard <|
    Triple.ite (fun _ => Triple.keep) fun _ => confined_claimLoopTx d now request 64

theorem confined_promoteDueRetriesTx (limit : Nat) : Confined AnyRoot b (promoteDueRetriesTx now limit) :=
  Triple.get_frame.bind fun _ => Triple.sumEach fun p _ => confined_of_ledger (keeps_ledger_promoteRetryTx now p)

theorem confined_recoverExpiredLeasesTx (limit : Nat) : Confined AnyRoot b (recoverExpiredLeasesTx d now limit) :=
  Triple.get_frame.bind fun _ => (Triple.sumEach fun _ _ => confined_recoverLeaseTx d now (within_anyRoot b _)).bind
    fun _ => (Triple.forEach fun _ _ => confined_refreshExecutionCountsTx (within_anyRoot b _)).bind fun _ =>
      Triple.keep

theorem confined_evaluateCleanupEligibilityTx (limit : Nat) :
    Confined AnyRoot b (evaluateCleanupEligibilityTx d now limit) :=
  Triple.get_frame.bind fun _ => Triple.sumEach fun _ _ =>
    (confined_of_ledger (keeps_ledger_casProcess _ _ _)).bind fun _ => Triple.keep

theorem confined_repairScanTx : Confined AnyRoot b (repairScanTx d now) := by
  have missing (team : TeamId) (payload : OutboxPayload) (key : DedupeKey) :
      Keeps ledger (enqueueMissingTx now team payload key) :=
    Keeps.get.bind fun _ => Keeps.ite (Keeps.pure _) ((keeps_ledger_enqueueTx _ _ _ _).bind fun _ => Keeps.pure _)
  have decision (r : DecisionId × DecisionRow) : Keeps ledger (repairGateDecisionTx now r) :=
    Keeps.get.bind fun _ => Keeps.ite (Keeps.pure _) ((keeps_ledger_enqueueTx _ _ _ _).bind fun _ => Keeps.pure _)
  have project : Confined AnyRoot b (repairTerminalProjectionsTx now) :=
    Triple.get_frame.bind fun _ => Triple.sumEach fun r _ =>
      confined_repairTerminalProjectionTx now (within_anyRoot b r.1) trivial r.2
  exact Triple.get_frame.bind fun _ => (Triple.sumEach fun r _ => confined_of_ledger (decision r)).bind fun _ =>
    Triple.get_frame.bind fun _ => (Triple.sumEach fun e _ =>
      confined_cancelExecutionTreeTx now (within_anyRoot b e) true).bind fun _ =>
    Triple.get_frame.bind fun _ => (Triple.sumEach fun _ _ => confined_of_ledger (missing _ _ _)).bind fun _ =>
    Triple.get_frame.bind fun _ => (Triple.sumEach fun _ _ => confined_of_ledger (missing _ _ _)).bind fun _ =>
    Triple.get_frame.bind fun _ => (Triple.sumEach fun r _ =>
      confined_repairTerminalProcessTransitionTx d now (within_anyRoot b r.1) r.2.1 r.2.2).bind fun _ =>
    Triple.get_frame.bind fun _ => (Triple.sumEach fun r _ =>
      confined_repairWaitTx now (within_anyRoot b r.1) (placed_anyRoot b r.2)).bind fun _ =>
    project.bind fun _ => (confined_evaluateCleanupEligibilityTx d now 256).bind fun _ => Triple.keep

theorem keeps_ledger_restartProcessTx (p : ProcessId) (c : OperatorCommand) :
    Keeps ledger (restartProcessTx now p c) :=
  Keeps.get.bind fun _ => Keeps.ite (Keeps.pure _) ((Keeps.orRaise _ _).bind fun _ => Keeps.guard <|
    Keeps.guard <| (keeps_ledger_casProcess _ _ _).bind fun _ => Keeps.guard <|
      (keeps_ledger_enqueueTx _ _ _ _).bind fun _ => (Keeps.modify fun _ => by rfl).bind fun _ => Keeps.pure _)

/-! ### the commands that start no generation -/

theorem confined_patchTaskTx (t : TaskId) (expectedRevision : Nat) (priority : Option TaskPriority) :
    Confined AnyRoot b (patchTaskTx d t expectedRevision priority) := by
  refine (confined_of_ledger (keeps_visibleTask t)).bind fun task => Triple.guard <| ?_
  have write : Confined AnyRoot b (do
      let _ ← casTask t (·.rowRevision == expectedRevision) fun row =>
        { row with
          priority := priority.getD row.priority
          rowRevision := row.rowRevision + 1 }) :=
    (confined_casTask (fun _ => by rfl) fun _ _ => trivial).bind fun _ => Triple.keep
  split
  · exact Triple.guard <| Triple.get_frame.bind fun _ => Triple.guard <|
      Triple.ofExcept_frame.bind fun _ => write
  · exact write

theorem confined_softDeleteTaskTx (t : TaskId) (expectedRevision : Nat) :
    Confined AnyRoot b (softDeleteTaskTx t expectedRevision) :=
  Triple.get_frame.bind fun _ => Triple.orRaise_frame.bind fun _ => Triple.guard <|
    Triple.guard <| Triple.ite (fun _ => Triple.keep) fun _ =>
      (confined_casTask (fun _ => by rfl) fun _ _ => trivial).bind fun _ => Triple.keep

theorem confined_cancelTaskTx (t : TaskId) (expectedRevision : Nat) :
    Confined AnyRoot b (cancelTaskTx now t expectedRevision) := by
  have tree (root : ExecutionId) : Keeps ledger (modify (cancelTree now root) : Tx PUnit) :=
    Keeps.modify fun s => Prod.ext (funext fun e => identityOf_eq (shape_cancelTree now root s) e) rfl
  exact (confined_of_ledger (keeps_visibleTask t)).bind fun task => Triple.guard <|
    Triple.ite (fun _ => Triple.keep) fun _ =>
      (confined_casTask (fun _ => by rfl) fun _ _ => trivial).bind fun _ => Triple.guard <|
        (confined_of_ledger (tree _)).bind fun _ =>
          (confined_of_ledger (keeps_ledger_enqueueTx _ _ _ _)).bind fun _ => Triple.keep

theorem keeps_ledger_requeueDeadOutboxTx (o : OutboxId) (expectedGeneration idempotencyKey : Nat) :
    Keeps ledger (requeueDeadOutboxTx now o expectedGeneration idempotencyKey) :=
  keeps_requeueDeadOutboxTx_of_frame (fun _ _ _ => by rfl) now o expectedGeneration idempotencyKey

theorem keeps_ledger_applyLifecycleTx (item : ItemId) (action : LifecycleAction) (expectedRevision : Option Nat) :
    Keeps ledger (applyLifecycleTx now item action expectedRevision) :=
  keeps_applyLifecycleTx_of_frame (fun _ _ => by rfl) now item action expectedRevision

end engine

/-- The operation starts no generation. -/
def Operation.Continues : Operation → Prop
  | .createTask _ | .retryTask .. => False
  | _ => True

theorem confines_systemStep (d : Deployment) {s : Database} (hs : s.WellFormed) (event : Event)
    (h : event.operation.Continues) : Confines AnyRoot s (systemStep d s event) := by
  obtain ⟨now, operation⟩ := event
  have refl : Confines AnyRoot s s := .refl hs
  have start {α : Type} {x : Tx α} (hx : Triple (fun t => t = s) x fun _ => Confines AnyRoot s) :
      Confines AnyRoot s (x.commit s) := by
    rcases commit_cases x s with hc | ⟨a, ha⟩
    · rw [hc]
      exact refl
    · exact hx s a _ rfl ha
  unfold systemStep
  cases operation with
  | claimNext request =>
    have promoted := (confined_promoteDueRetriesTx now 64).commit refl
    exact promoted.trans ((confined_claimNextTx d now request).commit (.refl promoted.wellFormed))
  | markRunning p fence => exact start (confines_markRunningTx now hs p fence fun _ _ => within_anyRoot s _)
  | heartbeat p fence leaseSeconds =>
    exact Triple.commit (confined_of_ledger (Keeps.guard <| keeps_ledger_casProcess _ _ _)) refl
  | acceptOutcome outcome commit jitter =>
    exact start (confines_acceptOutcomeTx d now hs outcome commit jitter fun _ _ => within_anyRoot s _)
  | promoteDueRetries limit => exact (confined_promoteDueRetriesTx now limit).commit refl
  | recoverExpiredLeases limit => exact (confined_recoverExpiredLeasesTx d now limit).commit refl
  | requestCancellation e => exact (confined_requestCancellationTx now (within_anyRoot s e)).commit refl
  | materializeRoot e => exact (confined_materializeRootTx d now (within_anyRoot s e)).commit refl
  | consumeGateDecision decision =>
    exact start (confines_consumeGateDecisionTx d now hs decision fun _ _ _ _ => within_anyRoot s _)
  | leaseOutbox token leaseSeconds =>
    have lease : Confined AnyRoot s (leaseOutboxRowTx now token leaseSeconds) := by
      refine Triple.get_frame.bind fun db => ?_
      split
      · exact Triple.keep
      · exact (confined_of_ledger (keeps_ledger_casOutbox _ _ _)).bind fun _ => Triple.keep
    exact lease.commit refl
  | dispatchDelivery o valid => exact start (confines_handleDeliveryTx d now hs o valid fun _ _ _ _ => within_anyRoot s _)
  | completeOutbox o token =>
    exact Triple.commit (confined_of_ledger ((keeps_ledger_casOutbox _ _ _).bind fun _ => Keeps.pure _)) refl
  | releaseOutbox o token error =>
    exact start (confines_releaseOutboxTx now hs o token error fun _ _ _ _ => within_anyRoot s _)
  | repairOnce =>
    dsimp only [Operation.step]
    unfold repairOnce
    split
    · exact refl
    next db h =>
    have promoted := confined_promoteDueRetriesTx now 128 _ _ _ refl h
    split
    · exact promoted
    next db' h' =>
    exact (confined_repairScanTx d now).commit (confined_recoverExpiredLeasesTx d now 128 _ _ _ promoted h')
  | evaluateCleanupEligibility limit => exact (confined_evaluateCleanupEligibilityTx d now limit).commit refl
  | createTask request => exact h.elim
  | patchTask t expectedRevision priority => exact (confined_patchTaskTx d t expectedRevision priority).commit refl
  | cancelTask t expectedRevision => exact (confined_cancelTaskTx now t expectedRevision).commit refl
  | retryTask t expectedRevision reason => exact h.elim
  | softDeleteTask t expectedRevision => exact (confined_softDeleteTaskTx t expectedRevision).commit refl
  | decideGate request =>
    exact Triple.commit (confined_of_ledger (keeps_decideGateTx_of_frame (fun _ _ _ _ => rfl) d now request)) refl
  | stopExecution e command => exact (confined_stopExecutionTx now (within_anyRoot s e) command).commit refl
  | restartProcess p command => exact Triple.commit (confined_of_ledger (keeps_ledger_restartProcessTx now p command)) refl
  | requeueDeadOutbox o expectedGeneration idempotencyKey =>
    exact Triple.commit (confined_of_ledger (keeps_ledger_requeueDeadOutboxTx now o expectedGeneration idempotencyKey)) refl
  | applyLifecycle item action expectedRevision =>
    exact Triple.commit (confined_of_ledger (keeps_ledger_applyLifecycleTx now item action expectedRevision)) refl
  | writeFacts write => exact Triple.commit (confined_of_ledger (keeps_ledger_writeFactsTx write)) refl

/-! ### generations -/

namespace Database

/-- The accepted retry commands of a Task, by expected revision and reason, in their order. -/
def commandsOf (s : Database) (k : TaskId) : List (Nat × Nat) :=
  (s.restarts.rows.filter fun r => r.2.task == k).map fun r => (r.2.expectedRevision, r.2.reason)

/-- A root of a Task from before its current generation. -/
def Older (s : Database) (k : TaskId) (r : ExecutionId) : Prop :=
  ∃ i h, s.identityOf r = some i ∧ i.root = r ∧ i.task = k ∧ s.headOf k = some h ∧ i.generation < h.currentGeneration

/-- A new command moves a failed or cancelled Task to its next generation, under a root that is new, and its root
so far becomes an older one. -/
structure Restarted (s t : Database) (k : TaskId) (command : Nat × Nat) : Prop where
  ended : ∃ row, s.tasks.get? k = some row ∧ (row.status = .failed ∨ row.status = .cancelled)
  moved : ∃ h h', s.headOf k = some h ∧ t.headOf k = some h' ∧ h'.currentGeneration = h.currentGeneration + 1 ∧
    s.identityOf h'.currentRoot = none ∧ t.Older k h.currentRoot
  new : command ∉ s.commandsOf k
  recorded : t.commandsOf k = s.commandsOf k ++ [command]

/-- What one step does to the generations of the Tasks. -/
structure Advances (operation : Operation) (s t : Database) : Prop where
  wellFormed : t.WellFormed
  known : ∀ e i, s.identityOf e = some i → t.identityOf e = some i
  task : ∀ k h, s.headOf k = some h → (t.headOf k = some h ∧ t.commandsOf k = s.commandsOf k) ∨
    ∃ revision reason, operation = .retryTask k revision reason ∧ s.Restarted t k (revision, reason)
  fresh : ∀ k, s.headOf k = none → t.commandsOf k = s.commandsOf k ∧
    ∀ h, t.headOf k = some h → h.currentGeneration = 1

/-- As many accepted commands as generations after the first, all of them different. -/
structure Counted (s : Database) : Prop where
  nodup : ∀ k, (s.commandsOf k).Nodup
  generation : ∀ k h, s.headOf k = some h → h.currentGeneration = (s.commandsOf k).length + 1
  unused : ∀ k, s.headOf k = none → s.commandsOf k = []

theorem commandsOf_of_restarts {s t : Database} (h : t.restarts = s.restarts) (k : TaskId) :
    t.commandsOf k = s.commandsOf k := by
  unfold commandsOf
  rw [h]

theorem commandsOf_insert {s t : Database} {r : RestartRow} (h : t.restarts = s.restarts.insert r) (k : TaskId) :
    t.commandsOf k = if r.task = k then s.commandsOf k ++ [(r.expectedRevision, r.reason)] else s.commandsOf k := by
  unfold commandsOf
  rw [h]
  by_cases hk : r.task = k
  · simp [Table.insert, List.filter_append, hk]
  · simp [Table.insert, List.filter_append, hk]

theorem not_mem_commandsOf {s : Database} {k : TaskId} {revision reason : Nat}
    (h : ¬ (s.restarts.any fun _ r => r.task == k && r.expectedRevision == revision && r.reason == reason) = true) :
    (revision, reason) ∉ s.commandsOf k := by
  intro hmem
  obtain ⟨r, hr, heq⟩ := List.mem_map.1 hmem
  obtain ⟨hr, hk⟩ := List.mem_filter.1 hr
  obtain ⟨hrev, hreason⟩ := Prod.mk.inj heq
  refine h (Table.any_eq_true_iff.2 ⟨r.1, r.2, Table.get?_eq_some_iff.2 hr, ?_⟩)
  simp [hrev, hreason, show r.2.task = k by simpa using hk]

theorem Older.advances {operation : Operation} {s t : Database} {k : TaskId} {r : ExecutionId} (h : s.Older k r)
    (hst : Advances operation s t) : t.Older k r := by
  obtain ⟨i, q, hi, hroot, htask, hq, hlt⟩ := h
  rcases hst.task k q hq with ⟨hq', -⟩ | ⟨_, _, -, hmoved⟩
  · exact ⟨i, q, hst.known r i hi, hroot, htask, hq', hlt⟩
  · obtain ⟨h, h', hh, hh', hgen, -⟩ := hmoved.moved
    obtain rfl := Option.some.inj (hq.symm.trans hh)
    exact ⟨i, h', hst.known r i hi, hroot, htask, hh', by omega⟩

theorem Counted.advances {operation : Operation} {s t : Database} (h : s.Counted) (hst : Advances operation s t) :
    t.Counted := by
  have step (k : TaskId) : (t.commandsOf k).Nodup ∧
      (∀ q, t.headOf k = some q → q.currentGeneration = (t.commandsOf k).length + 1) ∧
      (t.headOf k = none → t.commandsOf k = []) := by
    cases hk : s.headOf k with
    | none =>
      obtain ⟨hcommands, hfirst⟩ := hst.fresh k hk
      rw [hcommands, h.unused k hk]
      exact ⟨List.nodup_nil, fun q hq => by simpa using hfirst q hq, fun _ => rfl⟩
    | some q =>
      rcases hst.task k q hk with ⟨hq, hcommands⟩ | ⟨_, _, -, hmoved⟩
      · rw [hcommands, hq]
        exact ⟨h.nodup k, fun q' hq' => by rw [← Option.some.inj hq']; exact h.generation k q hk, by simp⟩
      · obtain ⟨_, q', hq, hq', hgen, -⟩ := hmoved.moved
        obtain rfl := Option.some.inj (hk.symm.trans hq)
        rw [hmoved.recorded, hq']
        refine ⟨List.nodup_append.2 ⟨h.nodup k, List.nodup_singleton _, fun a ha c hc hac => ?_⟩, fun r hr => ?_, by simp⟩
        · rw [List.mem_singleton] at hc
          subst hc hac
          exact hmoved.new ha
        · rw [← Option.some.inj hr, hgen, h.generation k q hk, List.length_append, List.length_singleton]
  exact ⟨fun k => (step k).1, fun k => (step k).2.1, fun k => (step k).2.2⟩

theorem Counted.empty : Counted .empty where
  nodup _ := List.nodup_nil
  generation k h hk := by simp [headOf, Database.empty] at hk
  unused _ _ := rfl

end Database

theorem Confines.advances {R : ExecutionId → Prop} {s t : Database} (h : Confines R s t) (operation : Operation) :
    Advances operation s t where
  wellFormed := h.wellFormed
  known := h.known
  task k q hq := Or.inl ⟨by rw [h.heads, hq], commandsOf_of_restarts h.restarts k⟩
  fresh k hk := ⟨commandsOf_of_restarts h.restarts k, fun q hq => by rw [h.heads, hk] at hq; cases hq⟩

theorem Database.Advances.refl {s : Database} (h : s.WellFormed) (operation : Operation) : Advances operation s s :=
  (Confines.refl (R := AnyRoot) h).advances operation

/-! ### the commands that start a generation -/

theorem keeps_enqueueTx (now : Time) (team : TeamId) (payload : OutboxPayload) (key : DedupeKey) :
    Keeps (fun s : Database => (s.tasks, s.executions, s.restarts)) (enqueueTx now team payload key) :=
  Keeps.modify fun s => by split <;> rfl

theorem createTaskTx_writes (d : Deployment) (now : Time) (request : TaskCreateRequest) (s : Database) :
    Triple (fun t => t = s) (createTaskTx d now request) fun _ t =>
      t.tasks = s.tasks.insert (request.taskRow s.executions.next) ∧
        t.executions = s.executions.insert (request.rootRow s.tasks.next s.executions.next) ∧
        t.restarts = s.restarts := by
  refine Triple.ofExcept_frame.bind fun _ => Triple.guard <| Triple.get.bind fun db => ?_
  refine (Triple.set (Q := fun _ u => (u.tasks, u.executions, u.restarts) =
    (s.tasks.insert (request.taskRow s.executions.next),
      s.executions.insert (request.rootRow s.tasks.next s.executions.next), s.restarts)) fun u hu => ?_).bind fun _ =>
    ((keeps_enqueueTx now _ _ _).triple (· = _)).bind fun _ => Triple.pure fun u hu => ?_
  · obtain ⟨rfl, rfl⟩ := hu
    rfl
  · simpa only [Prod.mk.injEq] using hu

theorem advances_createTask (d : Deployment) (now : Time) (request : TaskCreateRequest) {s : Database}
    (hs : s.WellFormed) : Advances (.createTask request) s ((createTaskTx d now request).commit s) := by
  rcases commit_cases (createTaskTx d now request) s with hc | ⟨a, ha⟩
  · rw [hc]
    exact .refl hs _
  obtain ⟨htasks, hexecutions, hrestarts⟩ := createTaskTx_writes d now request s s a _ rfl ha
  refine ⟨wellFormed_createTaskTx d now request s a _ hs ha, fun e i hi => identityOf_insert hexecutions hi,
    fun k h hk => Or.inl ⟨?_, commandsOf_of_restarts hrestarts k⟩,
    fun k hk => ⟨commandsOf_of_restarts hrestarts k, fun h hh => ?_⟩⟩
  · obtain ⟨row, hrow, rfl⟩ := Option.map_eq_some_iff.1 hk
    refine headOf_of_get? ?_
    rw [htasks, Table.get?_insert_of_lt (Table.lt_next hrow), hrow]
  · obtain ⟨row, hrow, rfl⟩ := Option.map_eq_some_iff.1 hh
    rw [htasks] at hrow
    rcases Table.get?_insert_eq_some hrow with ⟨-, rfl⟩ | hrow
    · rfl
    · rw [headOf_of_get? hrow] at hk
      cases hk

/-- What a retry that is no replay writes. -/
structure RetryWrites (s t : Database) (k : TaskId) (revision reason : Nat) (task : TaskRow) (previous : ExecutionRow) :
    Prop where
  row : s.tasks.get? k = some task
  root : s.executions.get? task.currentRoot = some previous
  ended : task.status = .failed ∨ task.status = .cancelled
  new : (revision, reason) ∉ s.commandsOf k
  tasks : ∃ f : TaskRow → TaskRow, t.tasks = s.tasks.modify k f ∧
    ∀ row, (f row).currentRoot = s.executions.next ∧ (f row).currentGeneration = task.currentGeneration + 1
  executions : t.executions = s.executions.insert (retryRoot s.executions.next (task.currentGeneration + 1) previous)
  restarts : t.restarts = s.restarts.insert ⟨task.team, k, task.currentGeneration + 1, revision, reason⟩

theorem retryTaskTx_writes (d : Deployment) (now : Time) (k : TaskId) (revision reason : Nat) (s : Database) :
    Triple (fun t => t = s) (retryTaskTx d now k revision reason) fun _ t =>
      t = s ∨ ∃ task previous, RetryWrites s t k revision reason task previous := by
  refine (Triple.visibleTask (Q := fun task u => s.tasks.get? k = some task ∧ u = s)
    fun u task hu htask => by subst hu; exact ⟨htask, rfl⟩).bind fun task => Triple.intro fun htask =>
      Triple.get.bind fun db => ?_
  refine Triple.ite (fun _ => Triple.pure fun u hu => Or.inl hu.2) fun hreplay => ?_
  refine (Triple.raiseIf (Q := fun _ u => task.rowRevision = revision ∧ db = u ∧ u = s) fun u hu hc =>
    ⟨by simpa using hc, hu⟩).bind fun _ => Triple.intro fun hrevision => ?_
  refine (Triple.raiseIf (Q := fun _ u => task.status.isTerminal = true ∧ db = u ∧ u = s) fun u hu hc =>
    ⟨by simpa using hc, hu⟩).bind fun _ => Triple.intro fun hterminal => ?_
  refine (Triple.raiseIf (Q := fun _ u => task.status ≠ .succeeded ∧ db = u ∧ u = s) fun u hu hc =>
    ⟨by simpa using hc, hu⟩).bind fun _ => Triple.intro fun hsucceeded => ?_
  refine Triple.ofExcept_frame.bind fun _ => (Triple.orRaise (Q := fun previous u =>
    db.executions.get? task.currentRoot = some previous ∧ db = u ∧ u = s) fun u previous hu hp => ⟨hp, hu⟩).bind
      fun previous => Triple.intro fun hprevious => ?_
  refine Triple.guard <| Triple.guard <| Triple.guard <|
    Triple.guard <| ?_
  have ended : task.status = .failed ∨ task.status = .cancelled := by
    revert hterminal hsucceeded
    cases task.status <;> simp [TaskStatus.isTerminal]
  refine (Triple.set (Q := fun _ u => db = s ∧ u.tasks = s.tasks ∧
    u.executions = s.executions.insert (retryRoot s.executions.next (task.currentGeneration + 1) previous) ∧
    u.restarts = s.restarts.insert ⟨task.team, k, task.currentGeneration + 1, revision, reason⟩) fun u hu => ?_).bind
      fun _ => Triple.intro fun hdb => ?_
  · obtain ⟨rfl, rfl⟩ := hu
    exact ⟨rfl, rfl, rfl, rfl⟩
  subst hdb
  have written (u : Database) (f : TaskRow → TaskRow) : (u.updateTask k f).tasks = u.tasks.modify k f := rfl
  refine (Triple.casTask (Q := fun _ u => RetryWrites db u k revision reason task previous) (fun u hu hmiss => ?_)
    fun u row hu _ _ => ?_).bind fun _ => ?_
  · obtain ⟨htasks, -⟩ := hu
    have hc := hmiss task (by rw [htasks]; exact htask)
    simp [hrevision] at hc
  · obtain ⟨htasks, hexecutions, hrestarts⟩ := hu
    refine ⟨htask, hprevious, ended, not_mem_commandsOf hreplay, ?_, hexecutions, hrestarts⟩
    rw [← htasks]
    refine ⟨_, written u _, fun _ => ?_⟩
    exact ⟨rfl, rfl⟩
  · intro u b t hu ht
    obtain ⟨_, u', henqueue, ht⟩ := run_bind_ok.1 ht
    obtain ⟨-, rfl⟩ := run_pure_ok.1 ht
    have keep := keeps_enqueueTx now _ _ _ u _ _ henqueue
    simp only [Prod.mk.injEq] at keep
    obtain ⟨htasks, hexecutions, hrestarts⟩ := keep
    refine Or.inr ⟨task, previous, hu.row, hu.root, hu.ended, hu.new, ?_, hexecutions.trans hu.executions,
      hrestarts.trans hu.restarts⟩
    rw [htasks]
    exact hu.tasks

theorem RetryWrites.advances {s t : Database} {k : TaskId} {revision reason : Nat} {task : TaskRow}
    {previous : ExecutionRow} (h : RetryWrites s t k revision reason task previous) (hs : s.WellFormed)
    (ht : t.WellFormed) : Advances (.retryTask k revision reason) s t := by
  obtain ⟨f, htasks, hf⟩ := h.tasks
  have known : ∀ e i, s.identityOf e = some i → t.identityOf e = some i := fun e i hi => identityOf_insert h.executions hi
  have commands (j : TaskId) := commandsOf_insert h.restarts j
  have other (j : TaskId) (hj : j ≠ k) : t.headOf j = s.headOf j := by
    unfold headOf
    rw [htasks, Table.get?_modify_of_ne hj]
  have moved : t.headOf k = some (f task).head := by
    refine headOf_of_get? ?_
    rw [htasks, Table.get?_modify, h.row]
    simp
  refine ⟨ht, known, fun j q hq => ?_, fun j hj => ?_⟩
  · by_cases hjk : j = k
    · subst hjk
      obtain rfl := Option.some.inj ((headOf_of_get? h.row).symm.trans hq)
      obtain ⟨hroot, hgeneration⟩ := hf task
      obtain ⟨i, hi, hir, hit, hig⟩ := hs.current j task.head hq
      refine Or.inr ⟨revision, reason, rfl, ⟨task, h.row, h.ended⟩, ⟨task.head, (f task).head, hq, moved, hgeneration,
        ?_, i, (f task).head, known _ _ hi, hir, hit, moved, ?_⟩, h.new, ?_⟩
      · change s.identityOf (f task).currentRoot = none
        rw [hroot]
        simp [identityOf]
      · change i.generation < (f task).currentGeneration
        rw [hgeneration, hig]
        exact Nat.lt_succ_self _
      · rw [commands j, if_pos rfl]
    · exact Or.inl ⟨by rw [other j hjk, hq], by rw [commands j, if_neg (Ne.symm hjk)]⟩
  · have hjk : j ≠ k := by
      rintro rfl
      rw [headOf_of_get? h.row] at hj
      cases hj
    exact ⟨by rw [commands j, if_neg (Ne.symm hjk)], fun q hq => by rw [other j hjk, hj] at hq; cases hq⟩

theorem advances_retryTask (d : Deployment) (now : Time) (k : TaskId) (revision reason : Nat) {s : Database}
    (hs : s.WellFormed) :
    Advances (.retryTask k revision reason) s ((retryTaskTx d now k revision reason).commit s) := by
  rcases commit_cases (retryTaskTx d now k revision reason) s with hc | ⟨a, ha⟩
  · rw [hc]
    exact .refl hs _
  have wf := wellFormed_retryTaskTx d now k revision reason s a _ hs ha
  rcases retryTaskTx_writes d now k revision reason s s a _ rfl ha with hc | ⟨task, previous, h⟩
  · rw [hc]
    exact .refl hs _
  · exact h.advances hs wf

theorem advances_systemStep (d : Deployment) {s : Database} (hs : s.WellFormed) (event : Event) :
    Advances event.operation s (systemStep d s event) := by
  by_cases h : event.operation.Continues
  · exact (confines_systemStep d hs event h).advances _
  · obtain ⟨now, operation⟩ := event
    cases operation with
    | createTask request => exact advances_createTask d now request hs
    | retryTask t expectedRevision reason => exact advances_retryTask d now t expectedRevision reason hs
    | _ => exact absurd trivial h

theorem counted_of_reachable {d : Deployment} {s : Database} (h : Reachable d s) : s.WellFormed ∧ s.Counted := by
  obtain ⟨events, rfl⟩ := h
  refine runFrom_invariant (C := fun _ _ => True) (I := fun s : Database => s.WellFormed ∧ s.Counted)
    (fun s event hs _ => ?_) ⟨.empty, .empty⟩ (stepsMeet_true _ _)
  have step := advances_systemStep d hs.1 event
  exact ⟨step.wellFormed, hs.2.advances step⟩

/-! ### the work of older roots -/

/-- The work that belongs to one Execution, as a worker, the scheduler, an operator or a repair pass does it. A
Process or an Execution comes with the row it was selected with. -/
inductive Work
  -- workers
  | start (p : ProcessId) (fence : Nat)
  | outcome (submitted : ProcessOutcome) (commit : Option OutcomeCommit) (jitter : Nat)
  -- the scheduler
  | retry (p : ProcessRecord)
  | lease (p : ProcessRecord)
  | expired (p : ProcessRecord)
  | wake (e : ExecutionId)
  | cancellation (e : ExecutionId)
  | decision (id : DecisionId)
  | delivery (o : OutboxId) (vectorizeIntentValid : Bool)
  | release (o : OutboxId) (token : Nat) (error : String)
  -- the operator
  | stop (e : ExecutionId) (command : OperatorCommand)
  -- the parts of a repair pass
  | cancelling (e : ExecutionId)
  | stalled (e : ExecutionId) (row : ExecutionRow) (p : ProcessId)
  | wait (e : ExecutionId) (row : ExecutionRow)
  | projection (e : ExecutionId) (row : ExecutionRow)
  | counts (e : ExecutionId)

namespace Work

/-- The transaction of the work. -/
def tx (d : Deployment) (now : Time) : Work → Tx Unit
  | start p fence => do
    let _ ← markRunningTx now p fence
  | outcome submitted commit jitter => do
    let _ ← acceptOutcomeTx d now submitted commit jitter
  | retry p => do
    let _ ← promoteRetryTx now p
  | lease p => do
    let _ ← recoverLeaseTx d now p
  | expired p => failExpiredReadyTx d now p
  | wake e => do
    let _ ← materializeRootTx d now e
  | cancellation e => do
    let _ ← requestCancellationTx now e
  | decision id => do
    let _ ← consumeGateDecisionTx d now id
  | delivery o vectorizeIntentValid => handleDeliveryTx d now o vectorizeIntentValid
  | release o token error => releaseOutboxTx now o token error
  | stop e command => do
    let _ ← stopExecutionTx now e command
  | cancelling e => do
    let _ ← cancelExecutionTreeTx now e true
  | stalled e row p => do
    let _ ← repairTerminalProcessTransitionTx d now e row p
  | wait e row => do
    let _ ← repairWaitTx now e row
  | projection e row => do
    let _ ← repairTerminalProjectionTx now (e, row)
  | counts e => refreshExecutionCountsTx e

/-- The Executions the work is for. -/
def For (s : Database) : Work → ExecutionId → Prop
  | start p _, e => ∃ row, s.processes.get? p = some row ∧ row.execution = e
  | outcome submitted _ _, e => ∃ row, s.processes.get? submitted.process = some row ∧ row.execution = e
  | retry p, e => p.2.execution = e
  | lease p, e => p.2.execution = e
  | expired p, e => p.2.execution = e
  | wake k, e => k = e
  | cancellation k, e => k = e
  | decision id, e => ∃ record gate, s.decisions.get? id = some record ∧
      s.gates.get? record.gate = some gate ∧ gate.execution = e
  | delivery o _, e => ∃ row, s.outbox.get? o = some row ∧ s.carries row.payload e
  | release o _ _, e => ∃ row, s.outbox.get? o = some row ∧ row.owner = .execution e
  | stop k _, e => k = e
  | cancelling k, e => k = e
  | stalled k _ _, e => k = e
  | wait k _, e => k = e
  | projection k _, e => k = e
  | counts k, e => k = e

/-- The work belongs to the tree of a root. A part of a repair pass was selected with the coordinates of its
Execution, and a projection is of the root itself. -/
structure BelongsTo (w : Work) (s : Database) (r : ExecutionId) : Prop where
  tree : ∀ e, w.For s e → ∃ i, s.identityOf e = some i ∧ i.root = r
  selected : ∀ e row, w = .wait e row → s.identityOf e = some row.identity
  root : ∀ e row, w = .projection e row → e = r

theorem confines_commit {s : Database} (hs : s.WellFormed) (d : Deployment) (now : Time) {w : Work} {r : ExecutionId}
    (hw : w.BelongsTo s r) : Confines (· = r) s ((w.tx d now).commit s) := by
  have within (e : ExecutionId) (he : w.For s e) : s.Within (· = r) e := by
    obtain ⟨i, hi, hr⟩ := hw.tree e he
    exact .of_identity hs hi hr
  have run {α : Type} {x : Tx α} (hx : Confined (· = r) s x) :
      Triple (fun t => t = s) (do let _ ← x) fun _ => Confines (· = r) s :=
    Triple.bind (hx.pre fun t ht => by subst ht; exact .refl hs) fun _ => Triple.keep
  have start : Triple (fun t => t = s) (w.tx d now) fun _ => Confines (· = r) s := by
    cases w with
    | start p fence =>
      exact (confines_markRunningTx now hs p fence fun row hrow => within _ ⟨row, hrow, rfl⟩).bind fun _ =>
        Triple.keep
    | outcome submitted commit jitter =>
      exact (confines_acceptOutcomeTx d now hs submitted commit jitter fun row hrow => within _ ⟨row, hrow, rfl⟩).bind
        fun _ => Triple.keep
    | retry p => exact run (confined_of_ledger (keeps_ledger_promoteRetryTx now p))
    | lease p => exact run (confined_recoverLeaseTx d now (within _ rfl))
    | expired p =>
      exact (confined_failExpiredReadyTx d now (within _ rfl)).pre fun t ht => by subst ht; exact .refl hs
    | wake e => exact run (confined_materializeRootTx d now (within e rfl))
    | cancellation e => exact run (confined_requestCancellationTx now (within e rfl))
    | decision id =>
      exact (confines_consumeGateDecisionTx d now hs id fun record gate hrecord hgate =>
        within _ ⟨record, gate, hrecord, hgate, rfl⟩).bind fun _ => Triple.keep
    | delivery o vectorizeIntentValid =>
      exact confines_handleDeliveryTx d now hs o vectorizeIntentValid fun row e hrow he => within e ⟨row, hrow, he⟩
    | release o token error =>
      exact confines_releaseOutboxTx now hs o token error fun row e hrow he => within e ⟨row, hrow, he⟩
    | stop e command => exact run (confined_stopExecutionTx now (within e rfl) command)
    | cancelling e => exact run (confined_cancelExecutionTreeTx now (within e rfl) true)
    | stalled e row p => exact run (confined_repairTerminalProcessTransitionTx d now (within e rfl) row p)
    | wait e row =>
      have he := within e rfl
      exact run (confined_repairWaitTx now he (he.placed (.refl hs) (hw.selected e row rfl)))
    | projection e row => exact run (confined_repairTerminalProjectionTx now (within e rfl) (hw.root e row rfl) row)
    | counts e => exact (confined_refreshExecutionCountsTx (within e rfl)).pre fun t ht => by subst ht; exact .refl hs
  rcases commit_cases (w.tx d now) s with hc | ⟨a, ha⟩
  · rw [hc]
    exact .refl hs
  · exact start s a _ rfl ha

end Work

theorem Database.Older.ne_current {s : Database} {k : TaskId} {r : ExecutionId} (h : s.Older k r) (hs : s.WellFormed)
    {row : TaskRow} (hrow : s.tasks.get? k = some row) : row.currentRoot ≠ r := by
  rintro rfl
  obtain ⟨i, q, hi, -, -, hq, hlt⟩ := h
  obtain rfl := Option.some.inj ((headOf_of_get? hrow).symm.trans hq)
  obtain ⟨j, hj, -, -, hgeneration⟩ := hs.current k row.head hq
  obtain rfl := Option.some.inj (hi.symm.trans hj)
  omega

/-- `transition_from_runtime`, which is fenced by a generation. -/
def transitionFromRuntimeTx (now : Time) (t : TaskId) (expectedGeneration : Nat) (target : TaskStatus)
    (resultRef proofRef : Option Ref) (errorCode errorMessage : Option String) : Tx Bool :=
  projectTaskStatusTx now t {
    target := target
    expectedGeneration := some expectedGeneration
    resultRef := resultRef
    proofRef := proofRef
    errorCode := errorCode
    errorMessage := errorMessage }

theorem transitionFromRuntimeTx_fenced {s : Database} {k : TaskId} {row : TaskRow} {generation : Nat}
    (hrow : s.tasks.get? k = some row) (hne : generation ≠ row.currentGeneration) (now : Time) (target : TaskStatus)
    (resultRef proofRef : Option Ref) (errorCode errorMessage : Option String) :
    (transitionFromRuntimeTx now k generation target resultRef proofRef errorCode errorMessage).commit s = s := by
  rcases commit_cases (transitionFromRuntimeTx now k generation target resultRef proofRef errorCode errorMessage) s with
    hc | ⟨a, ha⟩
  · exact hc
  rcases projectTaskStatusTx_ok ha with ⟨hc, -⟩ | ⟨-, -, row', hrow', happlies, -⟩
  · exact hc
  · obtain rfl := Option.some.inj (hrow.symm.trans hrow')
    simp only [TaskProjection.appliesTo, Option.all_some, Bool.and_eq_true, beq_iff_eq] at happlies
    exact absurd happlies.1 hne

/-- **Full retry.** In every reachable database the accepted retry commands of a Task differ and are as many as its
generations after the first. Every step leaves the head of a Task and its commands alone, or is the one retry that
moves it, failed or cancelled, to the next generation under a new root; a root that is older then stays older along
every step. Work that belongs to an older root, started on the database or on one a pass has come to from it, leaves
the whole row of the Task as it is, and so does a transition under the fence of another generation. -/
theorem retryExactlyOnce (d : Deployment) {db : Database} (h : Reachable d db) :
    (∀ k row, db.tasks.get? k = some row → (db.commandsOf k).Nodup ∧
      row.currentGeneration = (db.commandsOf k).length + 1) ∧
    (∀ event k h, db.headOf k = some h →
      ((systemStep d db event).headOf k = some h ∧ (systemStep d db event).commandsOf k = db.commandsOf k) ∨
        ∃ revision reason, event.operation = .retryTask k revision reason ∧
          db.Restarted (systemStep d db event) k (revision, reason)) ∧
    (∀ event k r, db.Older k r → (systemStep d db event).Older k r) ∧
    ∀ s, Confines AnyRoot db s →
      (∀ now (w : Work) k r, s.Older k r → w.BelongsTo s r → ((w.tx d now).commit s).tasks.get? k = s.tasks.get? k) ∧
        ∀ now k row generation target resultRef proofRef errorCode errorMessage, s.tasks.get? k = some row →
          generation ≠ row.currentGeneration →
          (transitionFromRuntimeTx now k generation target resultRef proofRef errorCode errorMessage).commit s = s := by
  obtain ⟨hwf, hcounted⟩ := counted_of_reachable h
  refine ⟨fun k row hrow => ?_, fun event k h hk => ?_, fun event k r hr => ?_, fun s hs =>
    ⟨fun now w k r hr hw => ?_, fun now k row generation _ _ _ _ _ hrow hne => ?_⟩⟩
  · exact ⟨hcounted.nodup k, hcounted.generation k row.head (headOf_of_get? hrow)⟩
  · exact (advances_systemStep d hwf event).task k h hk
  · exact hr.advances (advances_systemStep d hwf event)
  · obtain ⟨-, q, -, -, -, hq, -⟩ := id hr
    obtain ⟨row, hrow, -⟩ := Option.map_eq_some_iff.1 hq
    rw [hrow]
    exact (Work.confines_commit hs.wellFormed d now hw).fenced k row hrow (hr.ne_current hs.wellFormed hrow)
  · exact transitionFromRuntimeTx_fenced hrow hne now _ _ _ _ _

/-- A deployment without frozen configuration snapshots. -/
def replayDeployment : Deployment := { sampleDeployment with hasConfigSnapshots := false }

/-- A Task cancelled before its first wake is handled, and retried twice by one command. -/
def sampleRetry : List Event :=
  [⟨1, .createTask { team := 0, requestIntent := .indexRebuild, workflowRevision := 1, compiledDigest := 7 }⟩,
    ⟨2, .leaseOutbox 1 30⟩, ⟨3, .cancelTask 0 0⟩, ⟨4, .leaseOutbox 2 30⟩, ⟨5, .dispatchDelivery 1 true⟩,
    ⟨6, .retryTask 0 4 5⟩, ⟨7, .retryTask 0 4 5⟩]

/-- The database after the two retries, with the wake of the first root still in flight. -/
def retriedOnce : Database := runFrom (systemStep replayDeployment) Database.empty sampleRetry

theorem retriedOnce_older : retriedOnce.Older 0 0 := by
  have hroot : (retriedOnce.identityOf 0).map (fun i => (i.root, i.task, i.generation)) = some (0, 0, 1) := by
    decide +kernel
  have hhead : (retriedOnce.headOf 0).map (·.currentGeneration) = some 2 := by decide +kernel
  obtain ⟨i, hi, heq⟩ := Option.map_eq_some_iff.1 hroot
  obtain ⟨h, hh, hgeneration⟩ := Option.map_eq_some_iff.1 hhead
  simp only [Prod.mk.injEq] at heq
  exact ⟨i, h, hi, heq.1, heq.2.1, hh, by omega⟩

theorem retriedOnce_wake : (Work.delivery 0 true).BelongsTo retriedOnce 0 where
  tree e he := by
    have hpayload : (retriedOnce.outbox.get? 0).map (·.payload) = some (.wakeExecution 0 (some 0) (some 1)) := by
      decide +kernel
    obtain ⟨i, -, hi, hroot, -⟩ := retriedOnce_older
    obtain ⟨row, hrow, hcarries⟩ := he
    rw [hrow, Option.map_some, Option.some.injEq] at hpayload
    rw [hpayload] at hcarries
    obtain rfl : 0 = e := hcarries
    exact ⟨i, hi, hroot⟩
  selected _ _ h := by cases h
  root _ _ h := by cases h

/-- The wake of the first root comes too late to touch the Task, which has one command and two generations. -/
theorem retryExactlyOnce_lateWake : retriedOnce.commandsOf 0 = [(4, 5)] ∧
    (retriedOnce.tasks.get? 0).map (·.currentGeneration) = some ((retriedOnce.commandsOf 0).length + 1) ∧
    (((Work.delivery 0 true).tx replayDeployment 8).commit retriedOnce).tasks.get? 0 = retriedOnce.tasks.get? 0 := by
  have hreach : Reachable replayDeployment retriedOnce := ⟨sampleRetry, rfl⟩
  obtain ⟨counts, -, -, fenced⟩ := retryExactlyOnce replayDeployment hreach
  have hs := Confines.refl (R := AnyRoot) (counted_of_reachable hreach).1
  refine ⟨by decide +kernel, ?_, (fenced retriedOnce hs).1 8 _ 0 0 retriedOnce_older retriedOnce_wake⟩
  obtain ⟨-, h, -, -, -, hh, -⟩ := retriedOnce_older
  obtain ⟨row, hrow, -⟩ := Option.map_eq_some_iff.1 hh
  rw [hrow, Option.map_some, (counts 0 row hrow).2]

end KnowledgeBase
