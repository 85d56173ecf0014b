import KnowledgeBase.Invariant.System

/-!
# Writes of Processes

`ProcessWrite` lists every way the engine rewrites the row of a Process, apart from admission, claims and restarts.
A property of the table of Processes that these writes keep, that a new ready row keeps, and that admission, claims
and the licensed restarts keep, is an invariant of the engine.
-/

namespace KnowledgeBase

open Transaction Database

theorem isRunningAt_iff {fence : Nat} {p : ProcessRow} :
    p.isRunningAt fence = true ↔ p.status = .running ∧ p.fencingGeneration = fence := by
  simp [ProcessRow.isRunningAt]

/-- The rewrites of a Process row. -/
inductive ProcessWrite : ProcessRow → ProcessRow → Prop
  | fence (p : ProcessRow) : p.status.isActive = true → p.status ≠ .cancelling →
      ProcessWrite p { p with
        status := .cancelling
        fencingGeneration := p.fencingGeneration + 1
        rowRevision := p.rowRevision + 1 }
  | cancel (p : ProcessRow) (now : Time) : p.status = .cancelling →
      ProcessWrite p { p with
        status := .cancelled
        completedAt := some now
        claimToken := none
        leaseOwner := none
        leaseExpiresAt := none
        heartbeatAt := none
        rowRevision := p.rowRevision + 1 }
  | fail (p : ProcessRow) (now : Time) (errorCode disposition : String) (accepted : Option OutcomeContent) :
      p.status.isTerminal = false →
      ProcessWrite p { p with
        status := .failed
        acceptedOutcomeDigest := accepted.or p.acceptedOutcomeDigest
        errorCode := some errorCode
        failureDisposition := some disposition
        claimToken := none
        leaseOwner := none
        leaseExpiresAt := none
        heartbeatAt := none
        completedAt := some now
        rowRevision := p.rowRevision + 1 }
  | start (p : ProcessRow) (now : Time) : p.status = .claimed →
      ProcessWrite p { p with
        status := .running
        startedAt := p.startedAt.or (some now)
        heartbeatAt := some now
        rowRevision := p.rowRevision + 1 }
  | beat (p : ProcessRow) (now expires : Time) : p.status = .running →
      ProcessWrite p { p with
        heartbeatAt := some now
        leaseExpiresAt := some expires
        rowRevision := p.rowRevision + 1 }
  | succeed (p : ProcessRow) (now : Time) (outcome : OutcomeContent) (output proof : Option Ref) :
      p.status = .running →
      ProcessWrite p { p with
        status := .succeeded
        acceptedOutcomeDigest := some outcome
        outputManifest := output
        proof := proof
        errorCode := none
        claimToken := none
        leaseOwner := none
        leaseExpiresAt := none
        heartbeatAt := none
        completedAt := some now
        rowRevision := p.rowRevision + 1 }
  | await (p : ProcessRow) (due : Time) (outcome : OutcomeContent) (errorCode : Option String) : p.status = .running →
      p.retryCount < p.maxRetries → ProcessWrite p { p with
        status := .retryWait
        acceptedOutcomeDigest := some outcome
        retryCount := p.retryCount + 1
        nextRetryAt := some due
        availableAt := due
        errorCode := errorCode
        failureDisposition := some "retryable"
        claimToken := none
        leaseOwner := none
        leaseExpiresAt := none
        heartbeatAt := none
        dispatchAdmitted := false
        dispatchPool := none
        dispatchEnqueuedAt := none
        rowRevision := p.rowRevision + 1 }
  | promote (p : ProcessRow) (now : Time) : p.status = .retryWait →
      ProcessWrite p { p with status := .ready, availableAt := now, nextRetryAt := none, rowRevision := p.rowRevision + 1 }
  | replay (p : ProcessRow) (now : Time) : (p.status = .claimed ∨ p.status = .running) →
      p.recoveryCount < p.maxRecoveries → ProcessWrite p { p with
        status := .ready
        claimToken := none
        leaseOwner := none
        leaseExpiresAt := none
        heartbeatAt := none
        fencingGeneration := p.fencingGeneration + 1
        recoveryCount := p.recoveryCount + 1
        availableAt := now
        dispatchAdmitted := false
        dispatchPool := none
        dispatchEnqueuedAt := none
        rowRevision := p.rowRevision + 1 }
  | cleanup (p : ProcessRow) (now : Time) : p.status.isTerminal = true →
      ProcessWrite p { p with cleanupEligibleAt := some now, rowRevision := p.rowRevision + 1 }

/-- The rewrite of a Process an operator restarts. -/
inductive ProcessRestart : ProcessRow → ProcessRow → Prop
  | mk (p : ProcessRow) : (p.status = .claimed ∨ p.status = .running ∨ p.status = .retryWait) →
      ProcessRestart p { p with
        status := .ready
        claimToken := none
        leaseOwner := none
        leaseExpiresAt := none
        heartbeatAt := none
        fencingGeneration := p.fencingGeneration + 1
        rowRevision := p.rowRevision + 1 }

/-- The rewrite of a Process a worker claims. -/
inductive ProcessClaim : ProcessRow → ProcessRow → Prop
  | mk (p : ProcessRow) (now : Time) (request : ClaimRequest) : p.status = .ready → ProcessClaim p { p with
        status := .claimed
        claimToken := some request.token
        leaseOwner := some request.leaseOwner
        leaseExpiresAt := some (now + request.leaseSeconds * 1000000)
        fencingGeneration := p.fencingGeneration + 1
        deliveryCount := p.deliveryCount + 1
        rowRevision := p.rowRevision + 1 }

/-- The rewrite of a Process that takes a place in a pool or gives it up. -/
inductive ProcessAdmission : ProcessRow → ProcessRow → Prop
  | mk (p : ProcessRow) (admitted : Bool) (pool : Option DispatchPool) (enqueuedAt : Option Time) :
      ProcessAdmission p { p with
        dispatchAdmitted := admitted
        dispatchPool := pool
        dispatchEnqueuedAt := enqueuedAt }

/-- The row of a Process no worker has claimed yet. -/
structure ProcessRow.IsNew (p : ProcessRow) : Prop where
  ready : p.status = .ready
  unadmitted : p.dispatchAdmitted = false
  unpooled : p.dispatchPool = none
  deliveries : p.deliveryCount = 0
  retries : p.retryCount = 0
  recoveries : p.recoveryCount = 0

/-- An invariant of the table of Processes. -/
structure ProcessInvariant (d : Deployment) where
  Holds : Table ProcessRow → Prop
  Restart : ProcessId → Database → Prop
  insert : ∀ {t row}, Holds t → row.IsNew → Holds (t.insert row)
  update : ∀ {t} {c : ProcessId → ProcessRow → Bool} {f : ProcessRow → ProcessRow}, Holds t →
    (∀ p row, t.get? p = some row → c p row = true → ProcessWrite row (f row)) → Holds (t.update c fun _ => f)
  admitWaiting : ∀ now, Triple (fun s => Holds s.processes) (admitWaitingProcessesTx d now) fun _ s => Holds s.processes
  claimCandidate : ∀ now request c,
    Triple (fun s => Holds s.processes ∧ s.claimCandidate d now = some c) (claimCandidateTx now request c)
      fun _ s => Holds s.processes
  restart : ∀ p fence, Triple (fun s => Holds s.processes ∧ Restart p s) (fenceRestartTx p fence)
    fun _ s => Holds s.processes

/-! ### invariants of rows -/

/-- A property of the row of a Process that every rewrite keeps, restarts under a license of their own. -/
structure RowInvariant where
  Holds : ProcessId → ProcessRow → Prop
  Restart : ProcessId → ProcessRow → Prop
  write : ∀ {p row row'}, Holds p row → ProcessWrite row row' → Holds p row'
  admission : ∀ {p row row'}, Holds p row → ProcessAdmission row row' → Holds p row'
  claim : ∀ {p row row'}, Holds p row → ProcessClaim row row' → Holds p row'
  restart : ∀ {p row row'}, Holds p row → Restart p row → ProcessRestart row row' → Holds p row'

namespace RowInvariant

variable {d : Deployment} (I : RowInvariant) {T : Table ProcessRow → Prop}

/-- A property of the table that keeping the rows keeps. -/
def Lifts (T : Table ProcessRow → Prop) : Prop :=
  ∀ {t} {c : ProcessId → ProcessRow → Bool} {f : ProcessRow → ProcessRow}, T t →
    (∀ p row, t.get? p = some row → c p row = true → I.Holds p row → I.Holds p (f row)) → T (t.update c fun _ => f)

variable {I}

theorem Lifts.casProcess {P : Database → Prop} (hT : I.Lifts T) {p : ProcessId} {c : ProcessRow → Bool}
    {f : ProcessRow → ProcessRow} (h : ∀ s row, P s → s.processes.get? p = some row → c row = true →
      I.Holds p row → I.Holds p (f row)) :
    Triple (fun s => T s.processes ∧ P s) (KnowledgeBase.casProcess p c f) fun _ s => T s.processes := by
  refine Triple.casProcess (fun s hs _ => hs.1) fun s row hs hrow hc => ?_
  show T (s.processes.update (fun j _ => j == p) fun _ => f)
  refine hT hs.1 fun q r hr hq => ?_
  obtain rfl : q = p := by simpa using hq
  rw [hrow] at hr
  obtain rfl := Option.some.inj hr
  exact h s row hs.2 hrow hc

theorem Lifts.admitWaiting (hT : I.Lifts T) (now : Time) :
    Triple (fun s => T s.processes) (admitWaitingProcessesTx d now) fun _ s => T s.processes := by
  refine Triple.admitWaitingProcessesTx (fun s h => ?_) fun p pool => ?_
  · dsimp only [releaseGatedReservations]
    exact hT h fun p row _ _ hold => I.admission hold (.mk row _ _ _)
  · refine (hT.casProcess (P := fun _ => True) fun s row _ _ _ hold => ?_).pre fun s h => ⟨h, trivial⟩
    exact I.admission hold (.mk row _ _ _)

theorem Lifts.claimCandidate (hT : I.Lifts T) (now : Time) (request : ClaimRequest) (c : ProcessRecord) :
    Triple (fun s => T s.processes) (claimCandidateTx now request c) fun _ s => T s.processes := by
  refine Triple.bind (Q := fun _ s => T s.processes) ?_ fun updated => Triple.ite (fun _ => ?_) fun _ =>
    Triple.keep
  · refine (hT.casProcess (P := fun _ => True) fun s row _ _ hc hold => ?_).pre fun s h => ⟨h, trivial⟩
    simp only [Bool.and_eq_true, beq_iff_eq] at hc
    exact I.claim hold (.mk row now request hc.1.1)
  · exact ((keeps_processWithExecution _).triple T).bind fun _ => Triple.ofExcept_frame.bind fun _ =>
      Triple.keep

theorem Lifts.restart (hT : I.Lifts T) (p : ProcessId) (fence : Nat) :
    Triple (fun s => T s.processes ∧ ∀ row, s.processes.get? p = some row → I.Restart p row) (fenceRestartTx p fence)
      fun _ s => T s.processes := by
  refine hT.casProcess fun s row hrestart hrow hc hold => ?_
  simp only [Bool.and_eq_true, Bool.or_eq_true, beq_iff_eq] at hc
  exact I.restart hold (hrestart row hrow) (.mk row (or_assoc.1 hc.2))

/-- The invariant of a table that the row invariant lifts to. -/
def Lifts.toProcess (hT : I.Lifts T) (hinsert : ∀ {t row}, T t → row.IsNew → T (t.insert row)) :
    ProcessInvariant d where
  Holds := T
  Restart p s := ∀ row, s.processes.get? p = some row → I.Restart p row
  insert := hinsert
  update h hw := hT h fun p row hrow hc hold => I.write hold (hw p row hrow hc)
  admitWaiting := hT.admitWaiting
  claimCandidate now request c := (hT.claimCandidate now request c).pre fun _ h => h.1
  restart := hT.restart

/-- The row invariant of one Process that exists. -/
def Within (I : RowInvariant) (p : ProcessId) (t : Table ProcessRow) : Prop :=
  ∃ row, t.get? p = some row ∧ I.Holds p row

theorem lifts_within (I : RowInvariant) (p : ProcessId) : I.Lifts (I.Within p) := by
  intro t c f h hf
  obtain ⟨row, hrow, hold⟩ := h
  refine ⟨if c p row then f row else row, by simp [Table.get?_update, hrow], ?_⟩
  split
  · next hc => exact hf p row hrow hc hold
  · exact hold

theorem Within.insert {p : ProcessId} {t : Table ProcessRow} (h : I.Within p t) (row : ProcessRow) :
    I.Within p (t.insert row) := by
  obtain ⟨old, hold, hI⟩ := h
  exact ⟨old, by rw [Table.get?_insert_of_lt (Table.lt_next hold)]; exact hold, hI⟩

/-- The row invariant of every Process. -/
def Everywhere (I : RowInvariant) (t : Table ProcessRow) : Prop := ∀ p row, t.get? p = some row → I.Holds p row

theorem lifts_everywhere (I : RowInvariant) : I.Lifts I.Everywhere := by
  intro t c f h hf p row hrow
  obtain ⟨old, hold, rfl⟩ := Table.get?_update_eq_some hrow
  split
  · next hc => exact hf p old hold hc (h p old hold)
  · exact h p old hold

theorem Everywhere.insert {t : Table ProcessRow} {row : ProcessRow} (h : I.Everywhere t)
    (hrow : ∀ p, I.Holds p row) : I.Everywhere (t.insert row) := by
  intro p q hq
  rcases Table.get?_insert_eq_some hq with ⟨-, rfl⟩ | hq
  · exact hrow p
  · exact h p q hq

end RowInvariant

/-- What a later row of a Process has in common with one whose lease was found expired: its fence has risen, or its
recoveries are those it had. -/
def leaseOf (old : ProcessRow) : RowInvariant where
  Holds _ row := old.fencingGeneration < row.fencingGeneration ∨ row.fencingGeneration = old.fencingGeneration ∧
    row.recoveryCount = old.recoveryCount ∧ row.maxRecoveries = old.maxRecoveries
  Restart _ _ := True
  write {p row row'} h hw := by
    cases hw with
    | fence => exact .inl (by rcases h with h | h <;> simp only [] <;> omega)
    | replay => exact .inl (by rcases h with h | h <;> simp only [] <;> omega)
    | _ => exact h
  admission h ha := by
    cases ha
    exact h
  claim h hc := by
    cases hc
    exact .inl (by rcases h with h | h <;> simp only [] <;> omega)
  restart h _ hr := by
    cases hr
    exact .inl (by rcases h with h | h <;> simp only [] <;> omega)

/-- A pending row of an expired lease. -/
def leaseKept (d : Deployment) (p : ProcessRecord) : ProcessInvariant d :=
  RowInvariant.Lifts.toProcess ((leaseOf p.2).lifts_within p.1) fun h _ => h.insert _

namespace ProcessInvariant

/-- Both invariants. -/
def and {d : Deployment} (I J : ProcessInvariant d) : ProcessInvariant d where
  Holds t := I.Holds t ∧ J.Holds t
  Restart p s := I.Restart p s ∧ J.Restart p s
  insert h hnew := ⟨I.insert h.1 hnew, J.insert h.2 hnew⟩
  update h hw := ⟨I.update h.1 hw, J.update h.2 hw⟩
  admitWaiting now s a t h hx := ⟨I.admitWaiting now s a t h.1 hx, J.admitWaiting now s a t h.2 hx⟩
  claimCandidate now request c s a t h hx :=
    ⟨I.claimCandidate now request c s a t ⟨h.1.1, h.2⟩ hx, J.claimCandidate now request c s a t ⟨h.1.2, h.2⟩ hx⟩
  restart p fence s a t h hx :=
    ⟨I.restart p fence s a t ⟨h.1.1, h.2.1⟩ hx, J.restart p fence s a t ⟨h.1.2, h.2.2⟩ hx⟩

variable {d : Deployment} (I : ProcessInvariant d)

/-! ### transactions that keep or rewrite the table -/

theorem of_keeps {α : Type} {x : Tx α} (hx : Keeps Database.processes x) :
    Triple (fun s => I.Holds s.processes) x fun _ s => I.Holds s.processes := hx.triple I.Holds

theorem casProcess_of {P : Database → Prop} {p : ProcessId} {c : ProcessRow → Bool} {f : ProcessRow → ProcessRow}
    (h : ∀ s row, P s → s.processes.get? p = some row → c row = true → ProcessWrite row (f row)) :
    Triple (fun s => I.Holds s.processes ∧ P s) (KnowledgeBase.casProcess p c f) fun _ s => I.Holds s.processes := by
  refine Triple.casProcess (fun s hs _ => hs.1) fun s row hs hrow hc => ?_
  show I.Holds (s.processes.update (fun j _ => j == p) fun _ => f)
  refine I.update hs.1 fun q r hr hq => ?_
  obtain rfl : q = p := by simpa using hq
  rw [hrow] at hr
  obtain rfl := Option.some.inj hr
  exact h s row hs.2 hrow hc

theorem casProcess {p : ProcessId} {c : ProcessRow → Bool} {f : ProcessRow → ProcessRow}
    (h : ∀ row, c row = true → ProcessWrite row (f row)) :
    Triple (fun s => I.Holds s.processes) (KnowledgeBase.casProcess p c f) fun _ s => I.Holds s.processes :=
  (I.casProcess_of (P := fun _ => True) fun _ row _ _ hc => h row hc).pre fun _ hs => ⟨hs, trivial⟩

theorem fenceExecution (now : Time) (e : ExecutionId) {s : Database} (hs : I.Holds s.processes) :
    I.Holds (Database.fenceExecution now e s).processes := by
  dsimp only [Database.fenceExecution, updateProcessesOf]
  refine I.update (I.update (I.update hs ?_) ?_) ?_
  · intro p row _ hc
    simp only [Bool.and_eq_true, Bool.or_eq_true, beq_iff_eq] at hc
    refine .fence row ?_ ?_ <;> rcases hc.2 with h | h <;> rw [h] <;> simp [ProcessStatus.isActive]
  · intro p row _ hc
    simp only [Bool.and_eq_true, beq_iff_eq] at hc
    exact .cancel row now hc.2.1.1
  · intro p row _ hc
    simp only [Bool.and_eq_true, Bool.or_eq_true, beq_iff_eq] at hc
    refine .fence row ?_ ?_ <;> rcases hc.2 with h | h <;> rw [h] <;> simp [ProcessStatus.isActive]

theorem cancelTree (now : Time) (root : ExecutionId) {s : Database} (hs : I.Holds s.processes) :
    I.Holds (KnowledgeBase.cancelTree now root s).processes := by
  dsimp only [KnowledgeBase.cancelTree]
  refine I.update hs fun p row _ hc => ?_
  simp only [Bool.and_eq_true, Bool.or_eq_true, beq_iff_eq] at hc
  refine .fence row ?_ ?_ <;> rcases hc.2 with h | h <;> rw [h] <;> simp [ProcessStatus.isActive]

theorem requestCancelling (now : Time) (e : ExecutionId) :
    Triple (fun s => I.Holds s.processes) (KnowledgeBase.requestCancelling now e) fun _ s => I.Holds s.processes :=
  (I.of_keeps (ExecutionFrame.processes.casExecution (fun _ => by rfl) _ _)).bind fun _ =>
    Triple.bind (Triple.modify (Q := fun _ s => I.Holds s.processes) fun s hs => I.fenceExecution now e hs) fun _ =>
      Triple.keep

/-! ### the engine invariant -/

/-- The writes of the terminal transitions. -/
def toTerminal : TerminalInvariant where
  Holds _ s := I.Holds s.processes
  Stop _ _ := True
  leave h := h
  closed _ h _ := h
  enterJoin _ h _ _ _ _ := h
  refresh _ e := (I.of_keeps (ExecutionFrame.processes.refreshExecutionCountsTx e)).pre fun _ h => h.2
  cancelChild now _ e _ _ _ := (I.requestCancelling now e).pre fun _ h => h.1.2
  cancelMember now _ e _ _ := ((I.requestCancelling now e).pre fun _ h => h.1.2).post fun _ _ h => ⟨h, trivial⟩
  closeCancelled now _ e current _ :=
    (I.of_keeps (ExecutionFrame.processes.closeCancelledTx now e current)).pre fun _ h => h.1.2
  closeIntegrity now tr current errorCode message _ :=
    (I.of_keeps (ExecutionFrame.processes.closeIntegrityTx now tr.execution current errorCode message)).pre
      fun _ h => h.2
  closeRoute now tr current r _ _ _ :=
    (I.of_keeps (ExecutionFrame.processes.closeRouteTx now tr.execution current r)).pre fun _ h => h.2

theorem insertProcess (now : Time) (e : ExecutionId) {process : ProcessRow} (hnew : process.IsNew) :
    Triple (fun s => I.Holds s.processes) (insertProcessTx now e process) fun _ s => I.Holds s.processes :=
  Triple.get_frame.bind fun _ => Triple.bind (Triple.modify (Q := fun _ s => I.Holds s.processes)
    fun s hs => I.insert hs hnew) fun _ => I.of_keeps <|
      (ExecutionFrame.processes.casExecution (fun _ => by rfl) _ _).bind fun _ => Keeps.guard <|
        ExecutionFrame.processes.of_core (keeps_core_enqueueTx _ _ _ _)

/-- The writes of the routes. -/
def toRoute : RouteInvariant d where
  toTerminalInvariant := I.toTerminal
  core {_ _ t} h hs := by
    show I.Holds t.processes
    rw [(core_eq_iff.1 h).2.2.1]
    exact hs
  insertProcess now tr _ _ _ _ _ _ _ _ _ _ _ _ _ _ _ _ :=
    (I.insertProcess now tr.execution ⟨rfl, rfl, rfl, rfl, rfl, rfl⟩).pre fun _ h => h.1.2
  openGate tr _ _ _ _ _ _ _ _ _ _ _ _ _ _ := (I.of_keeps <| Keeps.get.bind fun _ =>
    (Keeps.modify fun s => by rfl).bind fun _ => (ExecutionFrame.processes.casExecution (fun _ => by rfl) _ _).bind
      fun _ => Keeps.raiseIf _ _).pre fun _ h => h.1.2
  releaseChild now tr row changeSet child _ := (I.of_keeps <|
    (ExecutionFrame.processes.casExecution (fun _ => by rfl) _ _).bind fun _ =>
      Keeps.ite (ExecutionFrame.processes.of_core (keeps_core_enqueueTx _ _ _ _)) (Keeps.pure _)).pre fun _ h => h.1.2
  joinWait tr _ _ _ _ _ _ changeSet _ :=
    (I.of_keeps (ExecutionFrame.processes.casExecution (fun _ => by rfl) _ _)).pre fun _ h => h.1.2
  zeroJoin _ _ h _ := h
  follow _ _ _ _ _ _ h := h
  unfollow _ _ _ h := h
  sealBinding tr _ _ _ _ := (I.of_keeps <| Keeps.get.bind fun _ => (Keeps.orRaise _ _).bind fun _ =>
    Keeps.bind (keeps_compareAndSet fun _ => rfl)
      fun _ => Keeps.raiseIf _ _).pre fun _ h => h.2

theorem failProcess (now : Time) (p : ProcessRecord) (errorCode failureDisposition : String)
    (acceptedOutcome : Option OutcomeContent) :
    Triple (fun s => I.Holds s.processes) (failProcessTx now p errorCode failureDisposition acceptedOutcome)
      fun _ s => I.Holds s.processes := by
  refine (I.casProcess fun row hc => ?_).bind fun updated => I.of_keeps ?_
  · simp only [Bool.and_eq_true, Bool.not_eq_true'] at hc
    exact .fail row now errorCode failureDisposition acceptedOutcome hc.1
  · refine Keeps.ite (Keeps.pure _) (Keeps.get.bind fun db => ?_)
    split
    · exact Keeps.pure _
    · exact Keeps.raiseIf _ _

theorem keeps_processes_casTask {k : TaskId} {c : TaskRow → Bool} {f : TaskRow → TaskRow} :
    Keeps Database.processes (casTask k c f) :=
  keeps_compareAndSet fun _ => rfl

theorem markRunning (now : Time) (p : ProcessId) (fence : Nat) :
    Triple (fun s => I.Holds s.processes) (markRunningTx now p fence) fun _ s => I.Holds s.processes := by
  refine (I.of_keeps (keeps_processWithExecution p)).bind fun r => Triple.ite (fun _ => Triple.keep) fun _ => ?_
  refine (I.casProcess fun row hc => ?_).bind fun _ => I.of_keeps ?_
  · simp only [Bool.and_eq_true, beq_iff_eq] at hc
    exact .start row now hc.1
  · refine Keeps.guard <| (keeps_execution _).bind fun row =>
      (ExecutionFrame.processes.casExecution (fun _ => by rfl) _ _).bind fun _ => ?_
    split
    · exact (ExecutionFrame.processes.projectTaskStatusTx _ _ _).bind fun _ => Keeps.pure _
    · exact Keeps.pure _

theorem heartbeat (now : Time) (p : ProcessId) (fence leaseSeconds : Nat) :
    Triple (fun s => I.Holds s.processes) (heartbeatTx now p fence leaseSeconds) fun _ s => I.Holds s.processes := by
  refine Triple.guard <| I.casProcess fun row hc => ?_
  simp only [Bool.and_eq_true, beq_iff_eq] at hc
  exact .beat row now _ hc.1.1

theorem succeedProcess (now : Time) (p : ProcessId) (outcome : ProcessOutcome) :
    Triple (fun s => I.Holds s.processes) (succeedProcessTx now p outcome) fun _ s => I.Holds s.processes :=
  (I.casProcess fun row hc => .succeed row now _ _ _ (isRunningAt_iff.1 hc).1).bind fun _ => Triple.raiseIf_frame

theorem awaitRetry (p : ProcessId) (outcome : ProcessOutcome) (due : Time) :
    Triple (fun s => I.Holds s.processes ∧ s.MayRetry p) (awaitRetryTx p outcome due) fun _ s => I.Holds s.processes := by
  refine (I.casProcess_of fun s row hretry hrow hc => ?_).bind fun _ => Triple.raiseIf_frame
  obtain ⟨process, hprocess, hlt⟩ := hretry
  obtain rfl := Option.some.inj (hprocess.symm.trans hrow)
  exact .await process due _ _ (isRunningAt_iff.1 hc).1 hlt

theorem promoteRetry (now : Time) (p : ProcessRecord) :
    Triple (fun s => I.Holds s.processes) (promoteRetryTx now p) fun _ s => I.Holds s.processes := by
  refine (I.casProcess fun row hc => ?_).bind fun updated => I.of_keeps ?_
  · simp only [Bool.and_eq_true, beq_iff_eq] at hc
    exact .promote row now hc.1.1
  · exact Keeps.ite ((ExecutionFrame.processes.casExecution (fun _ => by rfl) _ _).bind fun _ =>
      (ExecutionFrame.processes.of_core (keeps_core_enqueueTx _ _ _ _)).bind fun _ => Keeps.pure _) (Keeps.pure _)

theorem cancelExpired (now : Time) (p : ProcessRecord) :
    Triple (fun s => I.Holds s.processes) (cancelExpiredTx now p) fun _ s => I.Holds s.processes := by
  refine I.casProcess fun row hc => ?_
  simp only [Bool.and_eq_true, beq_iff_eq] at hc
  exact .cancel row now hc.1

theorem replayExpired (now : Time) (p : ProcessRecord) (hrecovery : p.2.recoveryCount < p.2.maxRecoveries) :
    Triple (fun s => I.Holds s.processes ∧ (leaseKept d p).Holds s.processes) (replayExpiredTx now p)
      fun _ s => I.Holds s.processes := by
  refine I.casProcess_of fun s row hkept hrow hc => ?_
  simp only [Bool.and_eq_true, Bool.or_eq_true, beq_iff_eq] at hc
  obtain ⟨current, hcurrent, hlease⟩ := hkept
  obtain rfl := Option.some.inj (hcurrent.symm.trans hrow)
  rcases hlease with hlt | ⟨-, hcount, hmax⟩
  · rw [hc.1.2] at hlt
    exact absurd hlt (Nat.lt_irrefl _)
  · exact .replay current now hc.1.1 (by rw [hcount, hmax]; exact hrecovery)

theorem markCleanup (now : Time) (p : ProcessRecord) :
    Triple (fun s => I.Holds s.processes) (markCleanupEligibleTx now p) fun _ s => I.Holds s.processes := by
  refine (I.casProcess fun row hc => ?_).bind fun _ => Triple.keep
  simp only [Bool.and_eq_true] at hc
  exact .cleanup row now hc.2

theorem cancelTask (now : Time) (t : TaskId) (expectedRevision : Nat) :
    Triple (fun s => I.Holds s.processes) (cancelTaskTx now t expectedRevision) fun _ s => I.Holds s.processes :=
  (I.of_keeps (keeps_visibleTask t)).bind fun task => Triple.guard <|
    Triple.ite (fun _ => Triple.keep) fun _ => (I.of_keeps keeps_processes_casTask).bind fun _ =>
      Triple.guard <| Triple.bind (Triple.modify (Q := fun _ s => I.Holds s.processes)
        fun _ hs => I.cancelTree now task.currentRoot hs) fun _ =>
          (I.of_keeps (ExecutionFrame.processes.of_core (keeps_core_enqueueTx _ _ _ _))).bind fun _ =>
            Triple.keep

/-! ### rows of a pass -/

/-- The invariant while the rows of the list are pending: of those whose lease ran out, what they were found with. -/
def pending : List Pending → ProcessInvariant d
  | [] => I
  | .lease p :: l => (leaseKept d p).and (pending l)
  | .stalled _ _ _ :: l => pending l
  | .wait _ _ :: l => pending l

variable {I}

theorem pending_drop {x : Pending} {l : List Pending} {t : Table ProcessRow} (h : (I.pending (x :: l)).Holds t) :
    (I.pending l).Holds t := by
  cases x with
  | lease p => exact h.2
  | stalled e row p => exact h
  | wait e row => exact h

theorem pending_leases {l : List ProcessRecord} {t : Table ProcessRow} (h : I.Holds t)
    (hl : ∀ p ∈ l, t.get? p.1 = some p.2) : (I.pending (l.map .lease)).Holds t := by
  induction l with
  | nil => exact h
  | cons p l ih =>
    refine ⟨⟨p.2, hl p List.mem_cons_self, .inr ⟨rfl, rfl, rfl⟩⟩, ?_⟩
    exact ih fun q hq => hl q (List.mem_cons_of_mem p hq)

theorem pending_stalled {l : List (ExecutionId × ExecutionRow × ProcessId)} {t : Table ProcessRow} (h : I.Holds t) :
    (I.pending (l.map fun r => .stalled r.1 r.2.1 r.2.2)).Holds t := by
  induction l with
  | nil => exact h
  | cons r l ih => exact ih

theorem pending_waits {l : List (ExecutionId × ExecutionRow)} {t : Table ProcessRow} (h : I.Holds t) :
    (I.pending (l.map fun r => .wait r.1 r.2)).Holds t := by
  induction l with
  | nil => exact h
  | cons r l ih => exact ih

variable (I)

/-! The commands that write no Process. -/

theorem keeps_processes_createTaskTx (d : Deployment) (now : Time) (request : TaskCreateRequest) :
    Keeps Database.processes (createTaskTx d now request) := by
  intro s a t h
  refine (Triple.ofExcept_frame.bind fun _ => Triple.guard <| Triple.get.bind fun db => ?_ :
    Triple (fun u => u.processes = s.processes) (createTaskTx d now request) fun _ u => u.processes = s.processes)
      s a t rfl h
  refine Triple.bind (Triple.set (Q := fun _ u => u.processes = s.processes) fun u hu => ?_) fun _ =>
    Triple.bind ((ExecutionFrame.processes.of_core (keeps_core_enqueueTx _ _ _ _)).triple (· = s.processes)) fun _ =>
      Triple.keep
  rw [← hu.2, ← hu.1]

theorem keeps_processes_retryTaskTx (d : Deployment) (now : Time) (t : TaskId) (expectedRevision reason : Nat) :
    Keeps Database.processes (retryTaskTx d now t expectedRevision reason) := by
  intro s a u h
  refine (Triple.bind ((keeps_visibleTask t).triple (· = s.processes)) fun task => Triple.get.bind fun db => ?_ :
    Triple (fun u => u.processes = s.processes) (retryTaskTx d now t expectedRevision reason)
      fun _ u => u.processes = s.processes) s a u rfl h
  refine Triple.ite (fun _ => Triple.pure fun _ h => h.2) fun _ => ?_
  refine Triple.guard <| Triple.guard <| Triple.guard <|
    Triple.ofExcept_frame.bind fun _ => Triple.orRaise_frame.bind fun previous => Triple.guard <|
      Triple.guard <| Triple.guard <| Triple.guard <| ?_
  refine Triple.bind (Triple.set (Q := fun _ u => u.processes = s.processes) fun u hu => ?_) fun _ =>
    Triple.bind (keeps_processes_casTask.triple (· = s.processes)) fun _ =>
      Triple.bind ((ExecutionFrame.processes.of_core (keeps_core_enqueueTx _ _ _ _)).triple (· = s.processes)) fun _ =>
        Triple.keep
  rw [← hu.2, ← hu.1]

/-- The engine invariant of a property of the table of Processes. -/
def toEngine : EngineInvariant d where
  during l := (I.pending l).toRoute
  Wake _ _ := True
  Consume _ _ := True
  Dead _ _ := True
  Restart := I.Restart
  dead_core _ _ := trivial
  drop h := pending_drop h
  pendLeases _ h _ hl := pending_leases h fun p hp => (hl p hp).1
  pendStalled _ h := pending_stalled h
  pendWaits _ h := pending_waits h
  admitWaiting now := (I.admitWaiting now).pre fun _ h => h.2
  claimCandidate now request c := (I.claimCandidate now request c).pre fun _ h => ⟨h.1.2, h.2⟩
  markRunning now p fence := (I.markRunning now p fence).pre fun _ h => h.2
  heartbeat now p fence leaseSeconds := (I.heartbeat now p fence leaseSeconds).pre fun _ h => h.2
  acceptSnapshot _ e row snapshot changeSet :=
    (I.of_keeps (ExecutionFrame.processes.acceptSnapshotTx e row.task snapshot changeSet)).pre fun _ h => h.1.2
  bindCollection _ e row acceptance :=
    (I.of_keeps (ExecutionFrame.processes.bindCollectionTx e row.task acceptance)).pre fun _ h => h.1.2
  insertChild now _ _ _ _ _ _ _ _ := (I.of_keeps <| Keeps.get.bind fun _ =>
    (Keeps.modify fun _ => by rfl).bind fun _ =>
      Keeps.ite (ExecutionFrame.processes.of_core (keeps_core_enqueueTx _ _ _ _)) (Keeps.pure _)).pre fun _ h => h.1.2
  succeed now p _ _ outcome _ _ :=
    ((I.succeedProcess now p outcome).pre fun _ h => h.1.2).post fun _ _ h => ⟨h, fun _ _ _ _ _ => h⟩
  failEnter now l p errorCode failureDisposition acceptedOutcome :=
    (((I.pending l).failProcess now p errorCode failureDisposition acceptedOutcome).pre fun _ h => h.1.2.2).post
      fun _ _ h _ _ _ _ _ _ => h
  awaitRetry p _ _ outcome due := (I.awaitRetry p outcome due).pre fun _ h => ⟨h.1.2, h.2.2⟩
  awaitRetryDue p e due := (I.of_keeps (ExecutionFrame.processes.awaitRetryDueTx e p due)).pre fun _ h => h.1.2
  promoteRetry now p := (I.promoteRetry now p).pre fun _ h => h.2
  cancelExpired now l p := ((I.pending l).cancelExpired now p).pre fun _ h => h.2.2
  replayExpired now l p hrecovery := ((I.pending l).replayExpired now p hrecovery).pre fun _ h => ⟨h.2.2, h.2.1⟩
  stopHalted _ _ _ _ _ := trivial
  decideGate now request := by
    refine (I.of_keeps fun s a t h => ?_).pre fun _ h => h.2
    have tables := keeps_decideGateTx d now request s a t h
    simp only [Prod.mk.injEq] at tables
    exact tables.2.2
  resume _ _ g gate row := ((I.of_keeps (ExecutionFrame.processes.resumeFromGateTx gate.execution g row)).pre
    fun _ h => h.1.2).post fun _ _ h => ⟨h, fun _ _ _ _ _ _ _ _ _ _ _ => Or.inr h⟩
  wake _ h _ _ _ _ _ _ _ _ := Or.inr h
  stalled _ h _ _ := h
  breakWait _ h _ := h
  closeDead now e row errorCode error :=
    (I.of_keeps (ExecutionFrame.processes.closeDeadTx now e row errorCode error)).pre fun _ h => h.1.2
  clearCurrent _ _ := (I.of_keeps (ExecutionFrame.processes.casExecution (fun _ => by rfl) _ _)).pre fun _ h => h.1.2
  projectTerminal now e row := (I.of_keeps (ExecutionFrame.processes.projectTaskStatusTx now _ _)).pre fun _ h => h.1.2
  markCleanup now p := (I.markCleanup now p).pre fun _ h => h.2
  createTask now request := (I.of_keeps (keeps_processes_createTaskTx d now request)).pre fun _ h => h.2
  patchTask t expectedRevision priority :=
    (I.of_keeps (ExecutionFrame.processes.patchTaskTx d t expectedRevision priority)).pre fun _ h => h.2
  cancelTask now t expectedRevision := (I.cancelTask now t expectedRevision).pre fun _ h => h.2
  retryTask now t expectedRevision reason :=
    (I.of_keeps (keeps_processes_retryTaskTx d now t expectedRevision reason)).pre fun _ h => h.2
  softDelete t expectedRevision := (I.of_keeps (ExecutionFrame.processes.softDeleteTaskTx t expectedRevision)).pre fun _ h => h.2
  restart p fence := (I.restart p fence).pre fun _ h => ⟨h.1.2, h.2⟩

end ProcessInvariant

end KnowledgeBase
