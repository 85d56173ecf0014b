import KnowledgeBase.Invariant.Deliveries

/-!
# Invariants of runs

The commands keep every engine invariant, and so does every step of the system that its licenses admit. An engine
invariant that holds of a database holds of every database a run of admitted steps leads to from it.
-/

namespace KnowledgeBase

open Transaction Database EngineInvariant

/-! ### new Tasks and new roots -/

theorem identityOf_insert {s t : Database} {row : ExecutionRow} (h : t.executions = s.executions.insert row)
    {e : ExecutionId} {i : ExecutionIdentity} (hi : s.identityOf e = some i) : t.identityOf e = some i := by
  obtain ⟨r, hr, hid⟩ := identityOf_eq_some.1 hi
  refine identityOf_eq_some.2 ⟨r, ?_, hid⟩
  rw [h, Table.get?_insert_of_lt (Table.lt_next hr), hr]

theorem wellFormed_createTask {s : Database} (hs : s.WellFormed) {task : TaskRow} {root : ExecutionRow}
    (hcurrent : task.currentRoot = s.executions.next) (htask : root.task = s.tasks.next)
    (hgeneration : root.generation = task.currentGeneration) (hroot : root.root = s.executions.next)
    (hparent : root.parent = none) :
    WellFormed { s with tasks := s.tasks.insert task, executions := s.executions.insert root } := by
  have old {k : ExecutionId} {j : ExecutionIdentity} (h : s.identityOf k = some j) :
      identityOf { s with tasks := s.tasks.insert task, executions := s.executions.insert root } k = some j :=
    identityOf_insert rfl h
  have oldHead {k : TaskId} (h : (s.headOf k).isSome) :
      headOf { s with tasks := s.tasks.insert task, executions := s.executions.insert root } k = s.headOf k := by
    obtain ⟨row, hrow, -⟩ := Option.map_eq_some_iff.1 (Option.some_get h).symm
    simp [headOf, Table.get?_insert_of_lt (Table.lt_next hrow)]
  constructor
  · intro k j hj
    obtain ⟨row, hrow, rfl⟩ := identityOf_eq_some.1 hj
    rcases Table.get?_insert_eq_some hrow with ⟨rfl, rfl⟩ | hrow
    · refine ⟨Or.inl ⟨hroot, hparent⟩, ?_⟩
      change (headOf _ row.task).isSome = true
      simp [headOf, htask]
    · obtain ⟨hplaced, htask⟩ := hs.placed k row.identity (identityOf_of_get? hrow)
      refine ⟨?_, by rw [oldHead htask]; exact htask⟩
      rcases hplaced with h | ⟨hr, hp, r, hr', h⟩
      · exact Or.inl h
      · exact Or.inr ⟨hr, hp, r, old hr', h⟩
  · intro k h hk
    obtain ⟨row, hrow, rfl⟩ := Option.map_eq_some_iff.1 hk
    rcases Table.get?_insert_eq_some hrow with ⟨rfl, rfl⟩ | hrow
    · refine ⟨root.identity, identityOf_eq_some.2 ⟨root, ?_, rfl⟩, ?_, htask, hgeneration⟩
      · change Table.get? _ row.currentRoot = _
        rw [hcurrent]
        simp
      · exact hroot.trans hcurrent.symm
    · obtain ⟨j, hj, hrest⟩ := hs.current k row.head (headOf_of_get? hrow)
      exact ⟨j, old hj, hrest⟩

theorem wellFormed_insertRoot {s : Database} (hs : s.WellFormed) {root : ExecutionRow}
    (htask : (s.headOf root.task).isSome) (hroot : root.root = s.executions.next) (hparent : root.parent = none) :
    WellFormed { s with executions := s.executions.insert root } := by
  have old {k : ExecutionId} {j : ExecutionIdentity} (h : s.identityOf k = some j) :
      identityOf { s with executions := s.executions.insert root } k = some j :=
    identityOf_insert rfl h
  constructor
  · intro k j hj
    obtain ⟨row, hrow, rfl⟩ := identityOf_eq_some.1 hj
    rcases Table.get?_insert_eq_some hrow with ⟨rfl, rfl⟩ | hrow
    · exact ⟨Or.inl ⟨hroot, hparent⟩, htask⟩
    · obtain ⟨hplaced, htask⟩ := hs.placed k row.identity (identityOf_of_get? hrow)
      refine ⟨?_, htask⟩
      rcases hplaced with h | ⟨hr, hp, r, hr', h⟩
      · exact Or.inl h
      · exact Or.inr ⟨hr, hp, r, old hr', h⟩
  · intro k h hk
    obtain ⟨j, hj, hrest⟩ := hs.current k h hk
    exact ⟨j, old hj, hrest⟩

theorem wellFormed_moveTask {s : Database} (hs : s.WellFormed) {k : TaskId} {f : TaskRow → TaskRow}
    {e : ExecutionId} {i : ExecutionIdentity} (hi : s.identityOf e = some i) (hroot : i.root = e) (htask : i.task = k)
    (hf : ∀ row, s.tasks.get? k = some row → (f row).currentRoot = e ∧ i.generation = (f row).currentGeneration) :
    (s.updateTask k f).WellFormed := by
  constructor
  · intro j r hj
    obtain ⟨hplaced, hhead⟩ := hs.placed j r hj
    refine ⟨hplaced, ?_⟩
    simp only [headOf, updateTask, Option.isSome_map, Table.get?_modify] at hhead ⊢
    exact hhead
  · intro j h hj
    obtain ⟨row, hrow, rfl⟩ := Option.map_eq_some_iff.1 hj
    obtain ⟨q, hq, rfl⟩ := get?_updateTask hrow
    split
    · next hjk =>
      subst hjk
      obtain ⟨hcur, hgen⟩ := hf q hq
      exact ⟨i, by rw [show (f q).head.currentRoot = e from hcur]; exact hi, hroot.trans hcur.symm, htask, hgen⟩
    · exact hs.current j q.head (headOf_of_get? hq)

theorem triple_wellFormed_of_shape {α : Type} {x : Tx α} (hx : Keeps shape x) :
    Triple WellFormed x fun _ => WellFormed :=
  fun s a t hs ht => hs.of_shape (hx s a t ht)

theorem wellFormed_createTaskTx (d : Deployment) (now : Time) (request : TaskCreateRequest) :
    Triple WellFormed (createTaskTx d now request) fun _ => WellFormed := by
  refine Triple.ofExcept_frame.bind fun _ => Triple.guard <| Triple.get.bind fun db => ?_
  refine (Triple.set (Q := fun _ => WellFormed) fun s h => ?_).bind fun _ =>
    (triple_wellFormed_of_shape (keeps_shape_enqueueTx _ _ _ _)).bind fun _ => Triple.keep
  obtain ⟨rfl, h⟩ := h
  exact wellFormed_createTask h rfl rfl rfl rfl rfl

theorem Triple.visibleTask {P : Database → Prop} {t : TaskId} {Q : TaskRow → Database → Prop}
    (h : ∀ s task, P s → s.tasks.get? t = some task → Q task s) : Triple P (visibleTask t) Q := by
  refine Triple.start fun s hs => Triple.bind Triple.get fun db => ?_
  rintro s' row u ⟨rfl, rfl⟩ hx
  obtain ⟨hrow, rfl⟩ := run_orRaise_ok.1 hx
  exact h _ row hs (Option.filter_eq_some_iff.1 hrow).1

theorem keeps_visibleTask {γ : Type} {f : Database → γ} (t : TaskId) : Keeps f (visibleTask t) :=
  Keeps.get.bind fun _ => Keeps.orRaise _ _

theorem wellFormed_retryTaskTx (d : Deployment) (now : Time) (t : TaskId) (expectedRevision reason : Nat) :
    Triple WellFormed (retryTaskTx d now t expectedRevision reason) fun _ => WellFormed := by
  refine (Triple.visibleTask (Q := fun task s => s.tasks.get? t = some task ∧ WellFormed s)
    fun s task h htask => ⟨htask, h⟩).bind fun task => Triple.get.bind fun db => ?_
  refine Triple.ite (fun _ => Triple.pure fun s h => h.2.2) fun _ => ?_
  refine Triple.guard <| Triple.guard <| Triple.guard <|
    Triple.ofExcept_frame.bind fun _ => (Triple.orRaise (Q := fun previous s => db.executions.get? task.currentRoot =
      some previous ∧ db = s ∧ s.tasks.get? t = some task ∧ WellFormed s)
        fun s previous h hp => ⟨hp, h⟩).bind fun previous => ?_
  refine Triple.guard <| Triple.guard <| Triple.guard <|
    Triple.guard <| ?_
  let root := retryRoot db.executions.next (task.currentGeneration + 1) previous
  refine (Triple.set (Q := fun _ s => root.task = t ∧ s.identityOf db.executions.next = some root.identity ∧
    WellFormed s) fun s h => ?_).bind fun _ => Triple.intro fun hroot => ?_
  · obtain ⟨hp, rfl, htask, hs⟩ := h
    obtain ⟨i, hi, -, hit, -⟩ := hs.current t task.head (headOf_of_get? htask)
    change db.identityOf task.currentRoot = some i at hi
    rw [identityOf_of_get? hp] at hi
    obtain rfl := Option.some.inj hi
    have hhead : (db.headOf root.task).isSome := by
      rw [show root.task = t from hit, headOf_of_get? htask]
      rfl
    exact ⟨hit, by simp [identityOf, root],
      WellFormed.of_shape (by exact shape_of_tables rfl rfl) (wellFormed_insertRoot hs hhead rfl rfl)⟩
  · refine (Triple.casTask (Q := fun _ => WellFormed) (fun s h _ => h.2) fun s row h _ _ => ?_).bind fun _ =>
      (triple_wellFormed_of_shape (keeps_shape_enqueueTx _ _ _ _)).bind fun _ => Triple.keep
    exact wellFormed_moveTask h.2 h.1 rfl hroot fun q _ => ⟨rfl, rfl⟩

/-! ### commands that keep the shape -/

theorem ExecutionFrame.patchTaskTx {γ : Type} {f : Database → γ} (hf : ExecutionFrame f) (d : Deployment) (t : TaskId)
    (expectedRevision : Nat) (priority : Option TaskPriority) : Keeps f (patchTaskTx d t expectedRevision priority) := by
  refine (keeps_visibleTask t).bind fun task => Keeps.guard <| ?_
  have write : Keeps f (do
      let _ ← KnowledgeBase.casTask t (·.rowRevision == expectedRevision) fun row =>
        { row with priority := priority.getD row.priority, rowRevision := row.rowRevision + 1 }) :=
    (hf.casTask (fun _ => by rfl) _ _).bind fun _ => Keeps.pure _
  split
  · exact Keeps.guard <| Keeps.get.bind fun _ => Keeps.guard <|
      (Keeps.ofExcept _).bind fun _ => write
  · exact write

theorem ExecutionFrame.softDeleteTaskTx {γ : Type} {f : Database → γ} (hf : ExecutionFrame f) (t : TaskId)
    (expectedRevision : Nat) : Keeps f (softDeleteTaskTx t expectedRevision) :=
  Keeps.get.bind fun _ => (Keeps.orRaise _ _).bind fun _ => Keeps.guard <|
    Keeps.guard <| Keeps.ite (Keeps.pure _)
      ((hf.casTask (fun _ => by rfl) _ _).bind fun _ => Keeps.pure _)

theorem shape_cancelTree (now : Time) (root : ExecutionId) (s : Database) : (cancelTree now root s).shape = s.shape := by
  refine Prod.ext (funext fun e => ?_) rfl
  show (cancelTree now root s).identityOf e = s.identityOf e
  unfold cancelTree identityOf
  simp only [Table.get?_update, Option.map_map]
  congr 1
  funext row
  simp only [Function.comp_apply]
  split <;> rfl

theorem keeps_shape_cancelTaskTx (now : Time) (t : TaskId) (expectedRevision : Nat) :
    Keeps shape (cancelTaskTx now t expectedRevision) :=
  (keeps_visibleTask t).bind fun task => Keeps.guard <| Keeps.ite (Keeps.pure _)
    ((ExecutionFrame.shape.casTask (fun _ => by rfl) _ _).bind fun _ => Keeps.guard <|
      (Keeps.modify fun s => by exact shape_cancelTree now task.currentRoot s).bind fun _ =>
        (keeps_shape_enqueueTx _ _ _ _).bind fun _ => Keeps.pure _)

theorem keeps_decideGateTx_of_frame {γ : Type} {f : Database → γ}
    (hf : ∀ s decisions gates outbox, f { s with decisions := decisions, gates := gates, outbox := outbox } = f s)
    (d : Deployment) (now : Time) (request : GateDecisionRequest) : Keeps f (decideGateTx d now request) := by
  have cas (g : GateId) (c : GateRow → Bool) (u : GateRow → GateRow) :
      Keeps f (casGate g c u) := keeps_compareAndSet fun s => hf s s.decisions _ s.outbox
  have enqueue (team : TeamId) (payload : OutboxPayload) (key : DedupeKey) :
      Keeps f (enqueueTx now team payload key) :=
    Keeps.modify fun s => by
      split
      · rfl
      · exact hf s s.decisions s.gates _
  refine Keeps.get.bind fun db => (Keeps.orRaise _ _).bind fun task => (Keeps.orRaise _ _).bind fun gate => ?_
  split
  · exact Keeps.guard <| Keeps.pure _
  · exact Keeps.ite_bind (Keeps.ofExcept _) <| Keeps.guard <| Keeps.guard <| Keeps.guard <|
      Keeps.guard <| Keeps.guard <| (Keeps.modify fun s => hf s _ s.gates s.outbox).bind fun _ =>
        (cas _ _ _).bind fun _ => Keeps.guard <| (enqueue _ _ _).bind fun _ => Keeps.pure _

theorem keeps_decideGateTx (d : Deployment) (now : Time) (request : GateDecisionRequest) :
    Keeps (fun s : Database => (s.tasks, s.executions, s.processes)) (decideGateTx d now request) :=
  keeps_decideGateTx_of_frame (fun _ _ _ _ => rfl) d now request

theorem keeps_shape_decideGateTx (d : Deployment) (now : Time) (request : GateDecisionRequest) :
    Keeps shape (decideGateTx d now request) := by
  intro s a t h
  have tables := keeps_decideGateTx d now request s a t h
  simp only [Prod.mk.injEq] at tables
  exact shape_of_tables tables.2.1 tables.1

/-! ### commands that keep the tables -/

theorem keeps_requeueDeadOutboxTx_of_frame {γ : Type} {f : Database → γ}
    (hf : ∀ s outbox receipts, f { s with outbox := outbox, receipts := receipts } = f s) (now : Time) (o : OutboxId)
    (expectedGeneration idempotencyKey : Nat) : Keeps f (requeueDeadOutboxTx now o expectedGeneration idempotencyKey) := by
  intro s a t h
  refine (Triple.get.bind fun db => Triple.orRaise_frame.bind fun row => Triple.guard <|
    Triple.guard <| ?_ : Triple (fun u => u = s)
      (requeueDeadOutboxTx now o expectedGeneration idempotencyKey) fun _ u => f u = f s) s a t rfl h
  split
  · exact Triple.pure fun u hu => by rw [hu.2]
  · refine Triple.guard <| (Triple.set (Q := fun _ u => f u = f s) fun u hu => ?_).bind fun _ =>
      Triple.keep
    rw [← hu.2, ← hu.1]
    exact hf db _ _

theorem keeps_core_requeueDeadOutboxTx (now : Time) (o : OutboxId) (expectedGeneration idempotencyKey : Nat) :
    Keeps Database.core (requeueDeadOutboxTx now o expectedGeneration idempotencyKey) :=
  keeps_requeueDeadOutboxTx_of_frame (fun _ _ _ => rfl) now o expectedGeneration idempotencyKey

theorem keeps_applyLifecycleTx_of_frame {γ : Type} {f : Database → γ} (hf : ∀ s facts, f { s with facts := facts } = f s)
    (now : Time) (item : ItemId) (action : LifecycleAction) (expectedRevision : Option Nat) :
    Keeps f (applyLifecycleTx now item action expectedRevision) := by
  intro s a t h
  refine (Triple.get.bind fun db => Triple.orRaise_frame.bind fun row => Triple.guard <|
    Triple.ofExcept_frame.bind fun target => ?_ : Triple (fun u => u = s)
      (applyLifecycleTx now item action expectedRevision) fun _ u => f u = f s) s a t rfl h
  split
  · exact Triple.pure fun u hu => by rw [hu.2]
  · refine (Triple.set (Q := fun _ u => f u = f s) fun u hu => ?_).bind fun _ => Triple.keep
    rw [← hu.2, ← hu.1]
    exact hf db _

theorem keeps_core_applyLifecycleTx (now : Time) (item : ItemId) (action : LifecycleAction)
    (expectedRevision : Option Nat) : Keeps Database.core (applyLifecycleTx now item action expectedRevision) :=
  keeps_applyLifecycleTx_of_frame (fun _ _ => rfl) now item action expectedRevision

/-! ### what a step calls on -/

namespace Operation

/-- The step interprets a wake of the Execution. -/
def Wakes (s : Database) : Operation → ExecutionId → Prop
  | materializeRoot e, k => k = e
  | dispatchDelivery o _, k => ∃ row t g, s.outbox.get? o = some row ∧ 0 < row.attempts ∧ row.payload = .wakeExecution k t g
  | _, _ => False

/-- The step consumes the gate decision. -/
def Consumes (s : Database) : Operation → DecisionId → Prop
  | consumeGateDecision decision, k => k = decision
  | dispatchDelivery o _, k => ∃ row t g, s.outbox.get? o = some row ∧ 0 < row.attempts ∧ row.payload = .gateDecision k t g
  | _, _ => False

/-- The step cancels the tree of the Execution. -/
def Stops (s : Database) : Operation → ExecutionId → Prop
  | requestCancellation e, k => k = e
  | stopExecution e _, k => k = e
  | dispatchDelivery o _, k => ∃ row t, s.outbox.get? o = some row ∧ 0 < row.attempts ∧ row.payload = .cancelExecution k t
  | _, _ => False

/-- The step kills a delivery that the Execution owns. -/
def Kills (s : Database) : Operation → ExecutionId → Prop
  | releaseOutbox o token _, k => s.Kills o token k
  | _, _ => False

/-- The step restarts the Process. -/
def Restarts : Operation → ProcessId → Prop
  | restartProcess p _, k => k = p
  | _, _ => False

end Operation

namespace EngineInvariant

variable {d : Deployment} (I : EngineInvariant d)

/-- The licenses of the invariant admit the operation. -/
structure Admits (s : Database) (operation : Operation) : Prop where
  wake : ∀ e, operation.Wakes s e → I.Wake e s
  consume : ∀ decision, operation.Consumes s decision → I.Consume decision s
  stop : ∀ e, operation.Stops s e → Licensed I e s
  dead : ∀ e, operation.Kills s e → I.Dead e s
  restart : ∀ p, operation.Restarts p → I.Restart p s

variable {I}

theorem sound_stopExecutionTx (now : Time) (e : ExecutionId) (c : OperatorCommand) :
    Triple (fun s => I.Sound [] s ∧ Licensed I e s) (stopExecutionTx now e c) fun _ => I.Sound [] := by
  refine Triple.guard <| Triple.get.bind fun db => Triple.ite
    (fun _ => Triple.pure fun s h => h.2.1) fun _ => ?_
  refine (Triple.orRaise (Q := fun row s => I.Sound [] s ∧ (row.status.isTerminal = false →
    (I.during []).Stop row.root s)) fun s row h hrow => ?_).bind fun row => ?_
  · obtain ⟨rfl, h⟩ := h
    exact ⟨h.1, h.2 row (Option.filter_eq_some_iff.1 hrow).1⟩
  refine Triple.guard <| (Triple.raiseIf (Q := fun _ s => I.Sound [] s ∧
    (I.during []).Stop row.root s) fun s h ht => ⟨h.1, h.2 ht⟩).bind fun _ => ?_
  refine (Triple.execution (Q := fun _ s => I.Sound [] s ∧ (I.during []).Stop row.root s) fun s _ h _ => h).bind fun _ => ?_
  exact (sound_cancelExecutionTreeTx_root I now row.root).bind fun _ =>
    (sound_core (Keeps.modify fun s => by rfl)).bind fun _ => Triple.keep

theorem sound_restartProcessTx (now : Time) (p : ProcessId) (c : OperatorCommand) :
    Triple (fun s => I.Sound [] s ∧ I.Restart p s) (restartProcessTx now p c) fun _ => I.Sound [] := by
  refine Triple.get_frame.bind fun db => Triple.ite (fun _ => Triple.pure fun s h => h.1) fun _ => ?_
  refine Triple.orRaise_frame.bind fun process => Triple.guard <| Triple.guard <| ?_
  exact (sound_write (ProcessFrame.shape.casProcess (fun _ => by rfl) _ _) (I.restart p _)).bind fun _ =>
    Triple.guard <|
    (sound_core (keeps_core_enqueueTx _ _ _ _)).bind fun _ => (sound_core (Keeps.modify fun s => by rfl)).bind fun _ =>
      Triple.keep

theorem sound_handleDeliveryTx (now : Time) (o : OutboxId) (valid : Bool) :
    Triple (fun s => I.Sound [] s ∧ I.Admits s (.dispatchDelivery o valid)) (handleDeliveryTx d now o valid)
      fun _ => I.Sound [] := by
  refine Triple.get.bind fun db => ?_
  split
  · exact Triple.pure fun s h => h.2.1
  next row hrow =>
  obtain ⟨hrow, hattempts⟩ := Option.filter_eq_some_iff.1 hrow
  replace hattempts : 0 < row.attempts := by simpa using hattempts
  split
  · next e t g hp =>
    refine Triple.bind (Triple.pre (sound_materializeRootTx I now e) fun s h => ?_) fun _ => Triple.keep
    obtain ⟨rfl, hs, ha⟩ := h
    exact ⟨hs, ha.wake e ⟨row, t, g, hrow, hattempts, hp⟩⟩
  · exact Triple.pure fun s h => h.2.1
  · next e t hp =>
    refine Triple.bind (Triple.pre (sound_requestCancellationTx I now e) fun s h => ?_) fun _ => Triple.keep
    obtain ⟨rfl, hs, ha⟩ := h
    exact ⟨hs, ha.stop e ⟨row, t, hrow, hattempts, hp⟩⟩
  · next decision t g hp =>
    refine Triple.bind (Triple.pre (sound_consumeGateDecisionTx I now decision) fun s h => ?_) fun _ =>
      Triple.keep
    obtain ⟨rfl, hs, ha⟩ := h
    exact ⟨hs, ha.consume decision ⟨row, t, g, hrow, hattempts, hp⟩⟩
  · exact Triple.raiseIf fun s h _ => h.2.1

theorem sound_repairOnce (now : Time) {s : Database} (hs : I.Sound [] s) : I.Sound [] (repairOnce d now s) := by
  unfold repairOnce
  split
  · exact hs
  next db h =>
  have h₁ := sound_promoteDueRetriesTx I now 128 _ _ _ hs h
  split
  · exact h₁
  next db' h' =>
  exact (sound_repairScanTx I now).commit (sound_recoverExpiredLeasesTx I now 128 _ _ _ h₁ h')

theorem sound_commit {α : Type} {x : Tx α} {G : Database → Prop}
    (h : Triple (fun s => I.Sound [] s ∧ G s) x fun _ => I.Sound []) {s : Database} (hs : I.Sound [] s) (hG : G s) :
    I.Sound [] (x.commit s) := by
  rcases commit_cases x s with hc | ⟨a, ha⟩
  · rwa [hc]
  · exact h s a _ ⟨hs, hG⟩ ha

theorem sound_systemStep {s : Database} {event : Event} (hs : I.Sound [] s) (ha : I.Admits s event.operation) :
    I.Sound [] (systemStep d s event) := by
  obtain ⟨now, operation⟩ := event
  unfold systemStep
  cases operation with
  | claimNext request => exact (sound_claimNextTx I now request).commit ((sound_promoteDueRetriesTx I now 64).commit hs)
  | markRunning p fence => exact (sound_write' (ProcessFrame.shape.markRunningTx now p fence) (I.markRunning now p fence)).commit hs
  | heartbeat p fence leaseSeconds =>
    exact (sound_write' (ProcessFrame.shape.heartbeatTx now p fence leaseSeconds)
      (I.heartbeat now p fence leaseSeconds)).commit hs
  | acceptOutcome outcome commit jitter => exact (sound_acceptOutcomeTx I now outcome commit jitter).commit hs
  | promoteDueRetries limit => exact (sound_promoteDueRetriesTx I now limit).commit hs
  | recoverExpiredLeases limit => exact (sound_recoverExpiredLeasesTx I now limit).commit hs
  | requestCancellation e => exact sound_commit (sound_requestCancellationTx I now e) hs (ha.stop e rfl)
  | materializeRoot e => exact sound_commit (sound_materializeRootTx I now e) hs (ha.wake e rfl)
  | consumeGateDecision decision =>
    exact sound_commit (sound_consumeGateDecisionTx I now decision) hs (ha.consume decision rfl)
  | leaseOutbox token leaseSeconds =>
    refine (Triple.get_frame.bind fun db => ?_ : Triple (I.Sound []) (leaseOutboxRowTx now token leaseSeconds)
      fun _ => I.Sound []).commit hs
    split
    · exact Triple.keep
    · exact (sound_core (keeps_core_casOutbox _ _ _)).bind fun _ => Triple.keep
  | dispatchDelivery o valid => exact sound_commit (sound_handleDeliveryTx now o valid) hs ha
  | completeOutbox o token =>
    exact (sound_core ((keeps_core_casOutbox _ _ _).bind fun _ => Keeps.pure _)).commit hs
  | releaseOutbox o token error => exact sound_commit (sound_releaseOutboxTx I now o token error) hs ha.dead
  | repairOnce => exact sound_repairOnce now hs
  | evaluateCleanupEligibility limit => exact (sound_evaluateCleanupEligibilityTx I now limit).commit hs
  | createTask request =>
    refine Triple.commit (P := I.Sound []) (fun s a t h ht => ⟨⟨?_, by simp⟩, I.createTask now request s a t h ht⟩) hs
    exact wellFormed_createTaskTx d now request s a t h.1.1 ht
  | patchTask t expectedRevision priority =>
    exact (sound_write' (ExecutionFrame.shape.patchTaskTx d t expectedRevision priority)
      (I.patchTask t expectedRevision priority)).commit hs
  | cancelTask t expectedRevision =>
    exact (sound_write' (keeps_shape_cancelTaskTx now t expectedRevision) (I.cancelTask now t expectedRevision)).commit hs
  | retryTask t expectedRevision reason =>
    refine Triple.commit (P := I.Sound []) (fun s a u h hu => ⟨⟨?_, by simp⟩,
      I.retryTask now t expectedRevision reason s a u h hu⟩) hs
    exact wellFormed_retryTaskTx d now t expectedRevision reason s a u h.1.1 hu
  | softDeleteTask t expectedRevision =>
    exact (sound_write' (ExecutionFrame.shape.softDeleteTaskTx t expectedRevision) (I.softDelete t expectedRevision)).commit hs
  | decideGate request =>
    exact (sound_write' (keeps_shape_decideGateTx d now request) (I.decideGate now request)).commit hs
  | stopExecution e command => exact sound_commit (sound_stopExecutionTx now e command) hs (ha.stop e rfl)
  | restartProcess p command => exact sound_commit (sound_restartProcessTx now p command) hs (ha.restart p rfl)
  | requeueDeadOutbox o expectedGeneration idempotencyKey =>
    exact (sound_core (keeps_core_requeueDeadOutboxTx now o expectedGeneration idempotencyKey)).commit hs
  | applyLifecycle item action expectedRevision =>
    exact (sound_core (keeps_core_applyLifecycleTx now item action expectedRevision)).commit hs
  | writeFacts write => exact (sound_core (keeps_core_writeFactsTx write)).commit hs

/-- An engine invariant holds along the runs whose steps its licenses admit. -/
theorem sound_run {s : Database} {events : List Event} (hs : I.Sound [] s)
    (ha : StepsMeet (systemStep d) (fun s event => I.Admits s event.operation) s events) :
    I.Sound [] (runFrom (systemStep d) s events) :=
  runFrom_invariant (fun _ _ h hadmits => sound_systemStep h hadmits) hs ha

end EngineInvariant

end KnowledgeBase
