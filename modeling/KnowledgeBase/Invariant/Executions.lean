import KnowledgeBase.Invariant.System

/-!
# The rows of the Executions

Whatever the engine does to the row of an Execution is one of four writes: it keeps status and result, moves a live
Execution, cancels an open one, or closes an open one. A property of rows that these writes keep is an invariant of the
engine.
-/

namespace KnowledgeBase

open Transaction Database EngineInvariant

/-! ### the writes -/

/-- What an Execution is closed with. -/
structure ExecutionResult where
  resultRef : Option Ref
  publicationProofRef : Option Ref
  finalErrorCode : Option String
  finalErrorMessage : Option String
  terminalSummary : Option TerminalSummary
  summaryCompletedAt : Option Time
  cancelConvergedAt : Option Time
  completedAt : Option Time
  deriving DecidableEq

def ExecutionRow.result (row : ExecutionRow) : ExecutionResult where
  resultRef := row.resultRef
  publicationProofRef := row.publicationProofRef
  finalErrorCode := row.finalErrorCode
  finalErrorMessage := row.finalErrorMessage
  terminalSummary := row.terminalSummary
  summaryCompletedAt := row.summaryCompletedAt
  cancelConvergedAt := row.cancelConvergedAt
  completedAt := row.completedAt

/-- Neither ended nor on its way to an end by cancellation. -/
def ExecutionStatus.IsLive (st : ExecutionStatus) : Prop := st.isTerminal = false ∧ st ≠ .cancelling

/-- A write of the engine to the row of an Execution. -/
inductive ExecutionWrite (row row' : ExecutionRow) : Prop
  | keep (identity : row'.identity = row.identity) (result : row'.result = row.result)
      (status : row'.status = row.status)
  | move (identity : row'.identity = row.identity) (result : row'.result = row.result) (was : row.status.IsLive)
      (status : row'.status.IsLive)
  | cancel (identity : row'.identity = row.identity) (result : row'.result = row.result)
      (was : row.status.isTerminal = false) (status : row'.status = .cancelling)
  | close (identity : row'.identity = row.identity) (was : row.status.isTerminal = false)
      (status : row'.status.isTerminal = true)

/-- The row of an Execution has a property. -/
def Database.HasRow (s : Database) (P : ExecutionRow → Prop) (e : ExecutionId) : Prop :=
  ∃ row, s.executions.get? e = some row ∧ P row

section row

variable {P : ExecutionRow → Prop} {e : ExecutionId}

theorem hasRow_of_executions {s t : Database} (h : t.executions = s.executions) (hs : s.HasRow P e) : t.HasRow P e := by
  unfold HasRow at *
  rwa [h]

theorem hasRow_of_keeps {α : Type} {x : Tx α} (hx : Keeps Database.executions x) :
    Triple (fun s => s.HasRow P e) x fun _ s => s.HasRow P e :=
  fun s a t hs ht => hasRow_of_executions (hx s a t ht) hs

/-! ### transactions that keep the table -/

theorem keeps_executions_of_core {α : Type} {x : Tx α} (hx : Keeps Database.core x) : Keeps Database.executions x :=
  fun s a t h => (core_eq_iff.1 (hx s a t h)).2.1

theorem keeps_executions_casProcess (p : ProcessId) (c : ProcessRow → Bool) (f : ProcessRow → ProcessRow) :
    Keeps Database.executions (casProcess p c f) :=
  keeps_compareAndSet fun _ => rfl

theorem keeps_executions_decideGateTx (d : Deployment) (now : Time) (request : GateDecisionRequest) :
    Keeps Database.executions (decideGateTx d now request) := by
  intro s a t h
  have tables := keeps_decideGateTx d now request s a t h
  simp only [Prod.mk.injEq] at tables
  exact tables.2.1

theorem keeps_executions_failProcessTx (now : Time) (p : ProcessRecord) (errorCode failureDisposition : String)
    (acceptedOutcome : Option OutcomeContent) :
    Keeps Database.executions (failProcessTx now p errorCode failureDisposition acceptedOutcome) := by
  refine (keeps_executions_casProcess _ _ _).bind fun updated => Keeps.ite (Keeps.pure _) (Keeps.get.bind fun db => ?_)
  split
  · exact Keeps.pure _
  · exact Keeps.raiseIf _ _

theorem keeps_executions_patchTaskTx (d : Deployment) (t : TaskId) (expectedRevision : Nat)
    (priority : Option TaskPriority) : Keeps Database.executions (patchTaskTx d t expectedRevision priority) := by
  refine (keeps_visibleTask t).bind fun task => Keeps.guard <| ?_
  split
  · exact Keeps.guard <| Keeps.get.bind fun _ => Keeps.guard <|
      (Keeps.ofExcept _).bind fun _ => (keeps_executions_casTask _ _ _).bind fun _ => Keeps.pure _
  · exact (keeps_executions_casTask _ _ _).bind fun _ => Keeps.pure _

theorem keeps_executions_softDeleteTaskTx (t : TaskId) (expectedRevision : Nat) :
    Keeps Database.executions (softDeleteTaskTx t expectedRevision) :=
  Keeps.get.bind fun _ => (Keeps.orRaise _ _).bind fun _ => Keeps.guard <|
    Keeps.guard <| Keeps.ite (Keeps.pure _)
      ((keeps_executions_casTask _ _ _).bind fun _ => Keeps.pure _)

theorem keeps_executions_admitWaitingProcessesTx (d : Deployment) (now : Time) :
    Keeps Database.executions (admitWaitingProcessesTx d now) :=
  fun s a t h => Triple.admitWaitingProcessesTx (P := fun u => u.executions = s.executions) (fun _ hu => hu)
    (fun p _ u b v hu hv => (keeps_executions_casProcess p _ _ u b v hv).trans hu) s a t rfl h

theorem keeps_executions_claimCandidateTx (now : Time) (request : ClaimRequest) (c : ProcessRecord) :
    Keeps Database.executions (claimCandidateTx now request c) :=
  (keeps_executions_casProcess _ _ _).bind fun _ => Keeps.ite ((keeps_processWithExecution _).bind fun _ =>
    (Keeps.ofExcept _).bind fun _ => Keeps.pure _) (Keeps.pure _)

/-! ### transactions that write it -/

theorem hasRow_insert {s t : Database} {new : ExecutionRow} (h : t.executions = s.executions.insert new)
    (hs : s.HasRow P e) : t.HasRow P e := by
  obtain ⟨row, hrow, hP⟩ := hs
  refine ⟨row, ?_, hP⟩
  rw [h, Table.get?_insert_of_lt (Table.lt_next hrow), hrow]

variable (hP : ∀ row row', P row → ExecutionWrite row row' → P row')

include hP

theorem hasRow_updateExecution {k : ExecutionId} {f : ExecutionRow → ExecutionRow} {s : Database}
    (hf : ∀ row, s.executions.get? k = some row → ExecutionWrite row (f row)) (hs : s.HasRow P e) :
    (s.updateExecution k f).HasRow P e := by
  obtain ⟨row, hrow, h⟩ := hs
  by_cases hk : e = k
  · subst hk
    exact ⟨f row, get?_updateExecution_self hrow, hP row (f row) h (hf row hrow)⟩
  · exact ⟨row, by simp [updateExecution, Table.get?_modify, hrow, hk], h⟩

theorem hasRow_cas {k : ExecutionId} {c : ExecutionRow → Bool} {f : ExecutionRow → ExecutionRow}
    (hf : ∀ row, c row = true → ExecutionWrite row (f row)) :
    Triple (fun s => s.HasRow P e) (casExecution k c f) fun _ s => s.HasRow P e := by
  refine Triple.casExecution (fun s h _ => h) fun s row h hrow hc => ?_
  refine hasRow_updateExecution hP (fun q hq => ?_) h
  rw [hrow] at hq
  obtain rfl := Option.some.inj hq
  exact hf _ hc

theorem hasRow_refreshExecutionCountsTx (k : ExecutionId) :
    Triple (fun s => s.HasRow P e) (refreshExecutionCountsTx k) fun _ s => s.HasRow P e := by
  refine Triple.refreshExecutionCountsTx (fun s j f hf hs => ?_) fun _ _ _ _ hs => hasRow_of_executions rfl hs
  refine hasRow_updateExecution hP (fun row _ => ?_) hs
  obtain ⟨p, c, h⟩ := hf row
  rw [h]
  exact .keep rfl rfl rfl

theorem hasRow_requestCancelling (now : Time) (k : ExecutionId) :
    Triple (fun s => s.HasRow P e) (requestCancelling now k) fun _ s => s.HasRow P e := by
  refine (hasRow_cas hP fun row hc => ?_).bind fun updated =>
    (Triple.modify (Q := fun _ s => s.HasRow P e) fun s hs => hasRow_of_executions rfl hs).bind fun _ =>
      Triple.keep
  simp only [Bool.and_eq_true, Bool.not_eq_true'] at hc
  exact .cancel rfl rfl hc.1 rfl

theorem hasRow_closeCancelledTx (now : Time) (k : ExecutionId) (current : ExecutionRow) :
    Triple (fun s => s.HasRow P e) (closeCancelledTx now k current) fun _ s => s.HasRow P e := by
  refine (hasRow_cas hP fun row hc => ?_).bind fun updated => ?_
  · exact .close rfl (by rw [beq_iff_eq.1 hc]; rfl) rfl
  have project : Triple (fun s => s.HasRow P e)
      (do projectRootTaskTx now k current .cancelled none none none none; pure updated) fun _ s => s.HasRow P e :=
    (hasRow_of_keeps (keeps_executions_projectRootTaskTx _ _ _ _ _ _ _ _)).bind fun _ => Triple.keep
  split
  · split
    · exact (hasRow_refreshExecutionCountsTx hP k).bind fun _ => project
    · exact project
  · exact Triple.keep

theorem hasRow_closeIntegrityTx (now : Time) (k : ExecutionId) (current : ExecutionRow) (errorCode message : String) :
    Triple (fun s => s.HasRow P e) (closeIntegrityTx now k current errorCode message) fun _ s => s.HasRow P e := by
  refine (hasRow_cas hP fun row hc => ?_).bind fun updated => ?_
  · exact .close rfl (by simpa using hc) rfl
  split
  · exact (hasRow_of_keeps (keeps_executions_projectRootTaskTx _ _ _ _ _ _ _ _)).bind fun _ => Triple.keep
  · exact Triple.keep

theorem hasRow_closeRouteTx (now : Time) (k : ExecutionId) (current : ExecutionRow) (r : TerminalRoute) :
    Triple (fun s => s.HasRow P e) (closeRouteTx now k current r) fun _ s => s.HasRow P e := by
  refine (hasRow_of_keeps (keeps_execution k)).bind fun row =>
    (hasRow_cas hP fun row hc => ?_).bind fun updated => ?_
  · refine .close rfl (by simpa using hc) ?_
    cases r.kind <;> rfl
  split
  · exact (hasRow_of_keeps (keeps_executions_projectRootTaskTx _ _ _ _ _ _ _ _)).bind fun _ => Triple.keep
  · exact Triple.keep

theorem hasRow_insertProcessTx (now : Time) (k : ExecutionId) (process : ProcessRow) :
    Triple (fun s => s.HasRow P e) (insertProcessTx now k process) fun _ s => s.HasRow P e := by
  refine Triple.get_frame.bind fun _ => (Triple.modify (Q := fun _ s => s.HasRow P e)
    fun s hs => hasRow_of_executions rfl hs).bind fun _ => (hasRow_cas hP fun row hc => ?_).bind fun _ =>
      Triple.guard <| hasRow_of_keeps (keeps_executions_of_core (keeps_core_enqueueTx _ _ _ _))
  simp only [Bool.and_eq_true, Bool.not_eq_true', bne_iff_ne] at hc
  exact .move rfl rfl hc ⟨rfl, by simp⟩

theorem hasRow_openGateTx (k : ExecutionId) (current : ExecutionRow) (gateKind : String) (key : RouteDecisionPayload)
    (evidence : ReviewEvidence) :
    Triple (fun s => s.HasRow P e) (openGateTx k current gateKind key evidence) fun _ s => s.HasRow P e := by
  refine Triple.get_frame.bind fun _ => (Triple.modify (Q := fun _ s => s.HasRow P e)
    fun s hs => hasRow_of_executions rfl hs).bind fun _ => (hasRow_cas hP fun row hc => ?_).bind fun _ =>
      Triple.raiseIf_frame
  simp only [Bool.and_eq_true, Bool.not_eq_true', bne_iff_ne, beq_iff_eq] at hc
  exact .move rfl rfl ⟨hc.1.2, hc.2⟩ ⟨rfl, by simp⟩

theorem hasRow_releaseScatterChildTx (now : Time) (row : ExecutionRow) (changeSet : ChangeSetId)
    (child : ExecutionId × ExecutionRow) :
    Triple (fun s => s.HasRow P e) (releaseScatterChildTx now row changeSet child) fun _ s => s.HasRow P e := by
  refine (hasRow_cas hP fun r hc => ?_).bind fun _ => Triple.ite
    (fun _ => hasRow_of_keeps (keeps_executions_of_core (keeps_core_enqueueTx _ _ _ _)))
    fun _ => Triple.keep
  have hwaiting : r.status = .waiting := by
    simp only [ExecutionRow.awaitsRelease, Bool.and_eq_true, beq_iff_eq] at hc
    exact hc.1.1
  exact .move rfl rfl (by rw [hwaiting]; exact ⟨rfl, by simp⟩) ⟨rfl, by simp⟩

theorem hasRow_joinWaitTx (k : ExecutionId) (changeSet : ChangeSetId) :
    Triple (fun s => s.HasRow P e) (joinWaitTx k changeSet) fun _ s => s.HasRow P e := by
  refine hasRow_cas hP fun row hc => ?_
  simp only [Bool.and_eq_true, Bool.not_eq_true', bne_iff_ne] at hc
  exact .move rfl rfl hc ⟨rfl, by simp⟩

theorem hasRow_sealActualBindingTx (k : ExecutionId) (key : RouteDecisionPayload)
    (cleanStepKey cleanProcessKey : String) (strategy : CleanStrategy) :
    Triple (fun s => s.HasRow P e) (sealActualBindingTx k key cleanStepKey cleanProcessKey strategy)
      fun _ s => s.HasRow P e :=
  Triple.get_frame.bind fun _ => Triple.orRaise_frame.bind fun _ =>
    (hasRow_cas hP fun _ _ => by exact .keep rfl rfl rfl).bind fun _ => Triple.raiseIf_frame

theorem hasRow_markRunningTx (now : Time) (p : ProcessId) (fence : Nat) :
    Triple (fun s => s.HasRow P e) (markRunningTx now p fence) fun _ s => s.HasRow P e := by
  refine (hasRow_of_keeps (keeps_processWithExecution _)).bind fun r => Triple.ite (fun _ => Triple.keep)
    fun _ => ?_
  refine (hasRow_of_keeps (keeps_executions_casProcess _ _ _)).bind fun _ => Triple.guard <|
    (hasRow_of_keeps (keeps_execution _)).bind fun row => (hasRow_cas hP fun row hc => ?_).bind fun _ => ?_
  · exact .move rfl rfl (by rw [beq_iff_eq.1 hc]; exact ⟨rfl, by simp⟩) ⟨rfl, by simp⟩
  · split
    · exact (hasRow_of_keeps (keeps_executions_projectTaskStatusTx _ _ _)).bind fun _ => Triple.keep
    · exact Triple.keep

theorem hasRow_acceptSnapshotTx (k : ExecutionId) (t : TaskId) (snapshot : SnapshotId) (changeSet : ChangeSetId) :
    Triple (fun s => s.HasRow P e) (acceptSnapshotTx k t snapshot changeSet) fun _ s => s.HasRow P e :=
  (hasRow_cas hP fun _ _ => by exact .keep rfl rfl rfl).bind fun _ => Triple.guard <|
    (hasRow_of_keeps (keeps_executions_casTask _ _ _)).bind fun _ => Triple.raiseIf_frame

theorem hasRow_bindCollectionTx (k : ExecutionId) (t : TaskId) (acceptance : ScatterCollectionAcceptance) :
    Triple (fun s => s.HasRow P e) (bindCollectionTx k t acceptance) fun _ s => s.HasRow P e :=
  (hasRow_cas hP fun _ _ => by exact .keep rfl rfl rfl).bind fun _ => Triple.guard <|
    (hasRow_of_keeps (keeps_executions_casTask _ _ _)).bind fun _ => Triple.raiseIf_frame

omit hP in
theorem hasRow_insertChildExecutionTx (now : Time) (k : ExecutionId) (root : ExecutionRow)
    (acceptance : ScatterCollectionAcceptance) (member : ScatterMember) :
    Triple (fun s => s.HasRow P e) (insertChildExecutionTx now k root acceptance member) fun _ s => s.HasRow P e :=
  Triple.get_frame.bind fun _ => (Triple.modify (Q := fun _ s => s.HasRow P e) fun _ hs => hasRow_insert rfl hs).bind
    fun _ => hasRow_of_keeps
      (Keeps.ite (keeps_executions_of_core (keeps_core_enqueueTx _ _ _ _)) (Keeps.pure _))

theorem hasRow_awaitRetryDueTx (k : ExecutionId) (p : ProcessId) (due : Time) :
    Triple (fun s => s.HasRow P e) (awaitRetryDueTx k p due) fun _ s => s.HasRow P e := by
  refine (hasRow_cas hP fun row hc => ?_).bind fun _ => Triple.keep
  simp only [Bool.or_eq_true, beq_iff_eq] at hc
  refine .move rfl rfl ?_ ⟨rfl, by simp⟩
  rcases hc with (h | h) | h <;> rw [h] <;> exact ⟨rfl, by simp⟩

theorem hasRow_promoteRetryTx (now : Time) (p : ProcessRecord) :
    Triple (fun s => s.HasRow P e) (promoteRetryTx now p) fun _ s => s.HasRow P e := by
  refine (hasRow_of_keeps (keeps_executions_casProcess _ _ _)).bind fun _ => Triple.ite (fun _ => ?_)
    fun _ => Triple.keep
  refine (hasRow_cas hP fun row hc => ?_).bind fun _ =>
    (hasRow_of_keeps (keeps_executions_of_core (keeps_core_enqueueTx _ _ _ _))).bind fun _ => Triple.keep
  simp only [Bool.and_eq_true, beq_iff_eq] at hc
  exact .move rfl rfl (by rw [hc.1.1]; exact ⟨rfl, by simp⟩) ⟨rfl, by simp⟩

theorem hasRow_resumeFromGateTx (k : ExecutionId) (g : GateId) (row : ExecutionRow) :
    Triple (fun s => s.HasRow P e) (resumeFromGateTx k g row) fun _ s => s.HasRow P e := by
  refine Triple.ite (fun _ => Triple.keep) fun _ => (hasRow_cas hP fun row hc => ?_).bind fun _ =>
    Triple.guard <| hasRow_of_keeps (keeps_execution _)
  simp only [Bool.and_eq_true, beq_iff_eq] at hc
  exact .move rfl rfl (by rw [hc.1]; exact ⟨rfl, by simp⟩) ⟨rfl, by simp⟩

theorem hasRow_closeDeadTx (now : Time) (k : ExecutionId) (row : ExecutionRow) (errorCode error : String) :
    Triple (fun s => s.HasRow P e) (closeDeadTx now k row errorCode error) fun _ s => s.HasRow P e :=
  (hasRow_cas hP fun _ hc => by exact .close rfl (by simpa using hc) rfl).bind fun _ =>
    hasRow_of_keeps (keeps_executions_projectRootTaskTx _ _ _ _ _ _ _ _)

omit hP in
theorem hasRow_createTaskTx (d : Deployment) (now : Time) (request : TaskCreateRequest) :
    Triple (fun s => s.HasRow P e) (createTaskTx d now request) fun _ s => s.HasRow P e := by
  refine Triple.ofExcept_frame.bind fun _ => Triple.guard <| Triple.get.bind fun db => ?_
  refine (Triple.set (Q := fun _ s => s.HasRow P e) fun s h => ?_).bind fun _ =>
    (hasRow_of_keeps (keeps_executions_of_core (keeps_core_enqueueTx _ _ _ _))).bind fun _ => Triple.keep
  obtain ⟨rfl, h⟩ := h
  exact hasRow_insert rfl h

omit hP in
theorem hasRow_retryTaskTx (d : Deployment) (now : Time) (t : TaskId) (expectedRevision reason : Nat) :
    Triple (fun s => s.HasRow P e) (retryTaskTx d now t expectedRevision reason) fun _ s => s.HasRow P e := by
  refine (hasRow_of_keeps (keeps_visibleTask t)).bind fun task => Triple.get.bind fun db => ?_
  refine Triple.ite (fun _ => Triple.pure fun _ h => h.2) fun _ => ?_
  refine Triple.guard <| Triple.guard <| Triple.guard <|
    Triple.ofExcept_frame.bind fun _ => Triple.orRaise_frame.bind fun previous => Triple.guard <|
      Triple.guard <| Triple.guard <| Triple.guard <| ?_
  refine (Triple.set (Q := fun _ s => s.HasRow P e) fun s h => ?_).bind fun _ =>
    (hasRow_of_keeps (keeps_executions_casTask _ _ _)).bind fun _ =>
      (hasRow_of_keeps (keeps_executions_of_core (keeps_core_enqueueTx _ _ _ _))).bind fun _ => Triple.keep
  obtain ⟨rfl, h⟩ := h
  exact hasRow_insert rfl h

theorem hasRow_cancelTree (now : Time) (root : ExecutionId) {s : Database} (hs : s.HasRow P e) :
    (cancelTree now root s).HasRow P e := by
  obtain ⟨row, hrow, h⟩ := hs
  unfold cancelTree HasRow
  dsimp only
  rw [Table.get?_update, hrow, Option.map_some]
  split
  · next hc =>
    simp only [Bool.and_eq_true, Bool.not_eq_true'] at hc
    exact ⟨_, rfl, hP _ _ h (.cancel rfl rfl hc.2 rfl)⟩
  · exact ⟨row, rfl, h⟩

theorem hasRow_cancelTaskTx (now : Time) (t : TaskId) (expectedRevision : Nat) :
    Triple (fun s => s.HasRow P e) (cancelTaskTx now t expectedRevision) fun _ s => s.HasRow P e :=
  (hasRow_of_keeps (keeps_visibleTask t)).bind fun task => Triple.guard <|
    Triple.ite (fun _ => Triple.keep) fun _ =>
      (hasRow_of_keeps (keeps_executions_casTask _ _ _)).bind fun _ => Triple.guard <|
        (Triple.modify (Q := fun _ s => s.HasRow P e) fun _ hs => hasRow_cancelTree hP now task.currentRoot hs).bind
          fun _ => (hasRow_of_keeps (keeps_executions_of_core (keeps_core_enqueueTx _ _ _ _))).bind fun _ =>
            Triple.keep

/-! ### the engine invariant -/

/-- A property of the row through the routes. -/
def rowRoute (d : Deployment) : RouteInvariant d where
  Holds _ s := s.HasRow P e
  Stop _ _ := True
  leave h := h
  closed _ h _ := h
  enterJoin _ h _ _ _ _ := h
  refresh _ k := (hasRow_refreshExecutionCountsTx hP k).pre fun _ h => h.2
  cancelChild now _ k _ _ _ := (hasRow_requestCancelling hP now k).pre fun _ h => h.1.2
  cancelMember now _ k _ _ := ((hasRow_requestCancelling hP now k).pre fun _ h => h.1.2).post fun _ _ h => ⟨h, trivial⟩
  closeCancelled now _ k current _ := (hasRow_closeCancelledTx hP now k current).pre fun _ h => h.1.2
  closeIntegrity now tr current errorCode message _ :=
    (hasRow_closeIntegrityTx hP now tr.execution current errorCode message).pre fun _ h => h.2
  closeRoute now tr current r _ _ _ := (hasRow_closeRouteTx hP now tr.execution current r).pre fun _ h => h.2
  core {_ _ _} hc h := hasRow_of_executions (core_eq_iff.1 hc).2.1 h
  insertProcess now tr _ _ _ _ _ _ _ _ _ _ _ _ _ _ _ _ :=
    (hasRow_insertProcessTx hP now tr.execution _).pre fun _ h => h.1.2
  openGate tr _ _ _ _ _ _ _ current key evidence _ _ _ _ :=
    (hasRow_openGateTx hP tr.execution current "human_review_gate" key evidence).pre fun _ h => h.1.2
  releaseChild now _ row changeSet child _ :=
    (hasRow_releaseScatterChildTx hP now row changeSet child).pre fun _ h => h.1.2
  joinWait tr _ _ _ _ _ _ changeSet _ := (hasRow_joinWaitTx hP tr.execution changeSet).pre fun _ h => h.1.2
  zeroJoin _ _ h _ := h
  follow _ _ _ _ _ _ h := h
  unfollow _ _ _ h := h
  sealBinding tr key cleanStepKey cleanProcessKey strategy :=
    (hasRow_sealActualBindingTx hP tr.execution key cleanStepKey cleanProcessKey strategy).pre fun _ h => h.2

/-- A property of the row through every operation. -/
def rowEngine (d : Deployment) : EngineInvariant d where
  during _ := rowRoute (e := e) hP d
  Wake _ _ := True
  Consume _ _ := True
  Dead _ _ := True
  Restart _ _ := True
  dead_core _ _ := trivial
  drop h := h
  pendLeases _ h _ _ := h
  pendStalled _ h := h
  pendWaits _ h := h
  admitWaiting now := (hasRow_of_keeps (keeps_executions_admitWaitingProcessesTx d now)).pre fun _ h => h.2
  claimCandidate now request c :=
    (hasRow_of_keeps (keeps_executions_claimCandidateTx now request c)).pre fun _ h => h.1.2
  markRunning now p fence := (hasRow_markRunningTx hP now p fence).pre fun _ h => h.2
  heartbeat now p fence leaseSeconds := (hasRow_of_keeps <| Keeps.guard <|
    keeps_executions_casProcess _ _ _).pre fun _ h => h.2
  acceptSnapshot _ k row snapshot changeSet :=
    (hasRow_acceptSnapshotTx hP k row.task snapshot changeSet).pre fun _ h => h.1.2
  bindCollection _ k row acceptance := (hasRow_bindCollectionTx hP k row.task acceptance).pre fun _ h => h.1.2
  insertChild now _ k _ root acceptance member _ _ :=
    (hasRow_insertChildExecutionTx now k root acceptance member).pre fun _ h => h.1.2
  succeed now p _ _ outcome _ _ := ((hasRow_of_keeps <| (keeps_executions_casProcess _ _ _).bind fun _ =>
    Keeps.raiseIf _ _).pre fun _ h => h.1.2).post fun _ _ h => ⟨h, fun _ _ _ _ _ => h⟩
  failEnter now _ p errorCode failureDisposition acceptedOutcome :=
    ((hasRow_of_keeps (keeps_executions_failProcessTx now p errorCode failureDisposition acceptedOutcome)).pre
      fun _ h => h.1.2).post fun _ _ h _ _ _ _ _ _ => h
  awaitRetry p _ _ outcome due := (hasRow_of_keeps <| (keeps_executions_casProcess _ _ _).bind fun _ =>
    Keeps.raiseIf _ _).pre fun _ h => h.1.2
  awaitRetryDue p k due := (hasRow_awaitRetryDueTx hP k p due).pre fun _ h => h.1.2
  promoteRetry now p := (hasRow_promoteRetryTx hP now p).pre fun _ h => h.2
  cancelExpired now _ p := (hasRow_of_keeps (keeps_executions_casProcess _ _ _)).pre fun _ h => h.2
  replayExpired now _ p _ := (hasRow_of_keeps (keeps_executions_casProcess _ _ _)).pre fun _ h => h.2
  stopHalted _ _ _ _ _ := trivial
  decideGate now request := (hasRow_of_keeps (keeps_executions_decideGateTx d now request)).pre fun _ h => h.2
  resume _ _ g gate row := ((hasRow_resumeFromGateTx hP gate.execution g row).pre fun _ h => h.1.2).post
    fun _ _ h => ⟨h, fun _ _ _ _ _ _ _ _ _ _ _ => Or.inr h⟩
  wake _ h _ _ _ _ _ _ _ _ := Or.inr h
  stalled _ h _ _ := h
  breakWait _ h _ := h
  closeDead now k row errorCode error := (hasRow_closeDeadTx hP now k row errorCode error).pre fun _ h => h.1.2
  clearCurrent _ _ := (hasRow_cas hP fun _ _ => by exact .keep rfl rfl rfl).pre fun _ h => h.1.2
  projectTerminal now _ _ := (hasRow_of_keeps (keeps_executions_projectTaskStatusTx now _ _)).pre fun _ h => h.1.2
  markCleanup now p := (hasRow_of_keeps <| (keeps_executions_casProcess _ _ _).bind fun _ => Keeps.pure _).pre
    fun _ h => h.2
  createTask now request := (hasRow_createTaskTx d now request).pre fun _ h => h.2
  patchTask t expectedRevision priority :=
    (hasRow_of_keeps (keeps_executions_patchTaskTx d t expectedRevision priority)).pre fun _ h => h.2
  cancelTask now t expectedRevision := (hasRow_cancelTaskTx hP now t expectedRevision).pre fun _ h => h.2
  retryTask now t expectedRevision reason := (hasRow_retryTaskTx d now t expectedRevision reason).pre fun _ h => h.2
  softDelete t expectedRevision := (hasRow_of_keeps (keeps_executions_softDeleteTaskTx t expectedRevision)).pre
    fun _ h => h.2
  restart p fence := (hasRow_of_keeps (keeps_executions_casProcess _ _ _)).pre fun _ h => h.1.2

theorem admits_rowEngine {d : Deployment} (s : Database) (operation : Operation) :
    (rowEngine (e := e) hP d).Admits s operation :=
  ⟨fun _ _ => trivial, fun _ _ => trivial, fun _ _ _ _ _ => trivial, fun _ _ => trivial, fun _ _ => trivial⟩

theorem hasRow_run {d : Deployment} {s : Database} (hshaped : s.Shaped none) (hs : s.HasRow P e) (events : List Event) :
    (runFrom (systemStep d) s events).HasRow P e := by
  have hsound : (rowEngine (e := e) hP d).Sound [] s := ⟨hshaped, hs⟩
  refine (sound_run hsound ?_).2
  exact (stepsMeet_true s events).mono fun s event _ => admits_rowEngine hP s event.operation

end row

end KnowledgeBase
